import Diagnostics.Proofs.Identifier.History
import Diagnostics.Proofs.Report.IteratedConversion

/-! # Each variant is resolved once

Providers are registered and dropped, and identifiers come in through all entry points, one by one or
for many reports at once, and any of this may fail. The history of such a run lists what the registry
was asked for on the way. A text is its own identifier and never gets to the registry, and a member
that is a text is one of them everywhere but where the registry itself is asked.
-/
namespace Diagnostics

/-- The variant is no text, or just the text that it is resolved to. -/
def Variant.StandsFor (v : Variant) (r : Resolved) : Prop :=
  v.text? = none ∨ v.text? = some r.code ∧ r.docUrl = none

namespace Session
open Registry (Event Passes Unbroken)

/-- What brings identifiers in, or changes the providers. -/
inductive Errand where
  | register (type : VariantType) (provider : Option Provider)
  | reset
  | resolve (v : Variant)
  | forVariant (v : Variant) (title : Datum)
  | withIdentifier (b : Builder) (v : Variant)
  | build (b : Builder) (identifier : Option Variant) (title : Datum)
  | convert (r : Report) (identifier : Variant) (title : Datum)
  | convertAll (rs : List Report) (identifier : Variant) (title : Datum)

def Errand.leave : Errand → Session → Session
  | .register type provider => after (Session.register type provider)
  | .reset => after resetProviders
  | .resolve v => after (Session.resolve v)
  | .forVariant v title => after (Builder.forVariant v title)
  | .withIdentifier b v => after (b.withIdentifier v)
  | .build b identifier title => after (b.build identifier title)
  | .convert r identifier title => after (r.convert identifier title)
  | .convertAll rs identifier title => after (Diagnostics.convertAll identifier title rs)

/-- A registration that succeeds forgets all resolutions. -/
def registering (type : VariantType) (provider : Option Provider) : List Event :=
  match Registry.providerOr type provider with
  | .ok _ => [.forgot]
  | .error _ => []

/-- The event of identifying a variant, which a text does not get to. -/
def identifying (v : Variant) (s : Session) : List Event :=
  match v.text? with
  | some _ => []
  | none => [s.registry.event v]

/-- The events of converting reports one after the other, up to the first that cannot be. -/
def converting (v : Variant) (title : Datum) : List Report → Session → List Event
  | [], _ => []
  | r :: rs, s => identifying v s ++
    match r.convert v title s with
    | .ok _ s' => converting v title rs s'
    | .error _ _ => []

def Errand.events : Errand → Session → List Event
  | .register type provider, _ => registering type provider
  | .reset, _ => [.forgot]
  | .resolve v, s => [s.registry.event v]
  | .forVariant v _, s | .withIdentifier _ v, s | .build _ (some v) _, s | .convert _ v _, s =>
    identifying v s
  | .build _ none _, _ => []
  | .convertAll rs v title, s => converting v title rs s

def leaveAll (errands : List Errand) (s : Session) : Session :=
  errands.foldl (fun s errand => errand.leave s) s

/-- The events of some errands one after the other. -/
def history : List Errand → Session → List Event
  | [], _ => []
  | errand :: errands, s => errand.events s ++ history errands (errand.leave s)

section SparesRegistry
variable {α β : Type} {x : Action α} {f : α → Action β} {s : Session}

/-- An action that leaves the registry as it is, also when it fails. -/
def SparesRegistry (x : Action α) : Prop :=
  ∀ s, (after x s).registry = s.registry

theorem registry_after_bind (hf : ∀ a, SparesRegistry (f a)) (s : Session) :
    (after (x >>= f) s).registry = (after x s).registry := by
  cases h : x s with
  | ok a s' =>
    rw [after_of_ok h, after_congr (bind_of_ok h)]
    exact hf a s'
  | error fault s' => rw [after_of_error h, after_of_error (bind_of_error h)]

theorem sparesRegistry_bind (hx : SparesRegistry x) (hf : ∀ a, SparesRegistry (f a)) :
    SparesRegistry (x >>= f) :=
  fun s => (registry_after_bind hf s).trans (hx s)

theorem sparesRegistry_pure (a : α) : SparesRegistry (pure a) :=
  fun _ => rfl

theorem sparesRegistry_ofExcept (y : Except Fault α) : SparesRegistry (ofExcept y) := by
  intro s
  rw [after_ofExcept]

end SparesRegistry

theorem passes_register (type : VariantType) (provider : Option Provider) (s : Session) :
    Passes s.registry (registering type provider) (after (register type provider) s).registry := by
  unfold registering
  cases hp : Registry.providerOr type provider with
  | ok p =>
    obtain ⟨journal, hok⟩ := register_of_ok hp s
    rw [after_of_ok hok]
    have hstep : Registry.Moves s.registry .forgot (s.registry.add type p) := .forgot rfl rfl
    exact .single hstep
  | error fault =>
    rw [after_of_error (register_of_error hp s)]
    exact .nil s.registry

theorem passes_reset (s : Session) :
    Passes s.registry [.forgot] (after resetProviders s).registry := by
  have hstep : Registry.Moves s.registry .forgot s.registry.clear := .forgot rfl rfl
  exact .single hstep

theorem passes_resolve (v : Variant) (s : Session) :
    Passes s.registry [s.registry.event v] (after (resolve v) s).registry := by
  unfold Registry.event
  cases h : Registry.resolve v s.registry with
  | ok answer reg =>
    obtain ⟨r, fresh⟩ := answer
    obtain ⟨journal, hok⟩ := resolve_of_ok h
    rw [after_of_ok hok]
    exact .single (.resolved h)
  | error fault reg =>
    rw [after_of_error (resolve_of_error h)]
    exact .single (.failed h)

theorem passes_identify (v : Variant) (s : Session) :
    Passes s.registry (identifying v s) (after (identify v) s).registry := by
  unfold identifying identify
  cases v.text? with
  | some code => exact .nil s.registry
  | none => exact passes_resolve v s

theorem passes_withIdentifier (b : Builder) (v : Variant) (s : Session) :
    Passes s.registry (identifying v s) (after (b.withIdentifier v) s).registry := by
  rw [Builder.withIdentifier, registry_after_bind fun _ => sparesRegistry_pure _]
  exact passes_identify v s

theorem passes_build (b : Builder) (v : Variant) (title : Datum) (s : Session) :
    Passes s.registry (identifying v s) (after (b.build (some v) title) s).registry := by
  rw [Builder.build, registry_after_bind fun _ => sparesRegistry_ofExcept _,
    Builder.overridden_some, registry_after_bind fun _ => sparesRegistry_pure _]
  exact passes_withIdentifier b v s

theorem passes_convert (r : Report) (v : Variant) (title : Datum) (s : Session) :
    Passes s.registry (identifying v s) (after (r.convert v title) s).registry := by
  have hrest : ∀ resolved : Resolved, SparesRegistry (do
      let wrapper ← ofExcept (r.wrap resolved.code title)
      log .conversion .debug ("Converted " ++ r.identifier ++ " -> " ++ wrapper.identifier ++
        " (chain depth " ++ Text.natural wrapper.depth ++ ")")
      return wrapper) :=
    fun _ => sparesRegistry_bind (sparesRegistry_ofExcept _) fun _ _ => rfl
  rw [Report.convert, registry_after_bind hrest]
  exact passes_identify v s

theorem passes_convertAll (v : Variant) (title : Datum) (rs : List Report) (s : Session) :
    Passes s.registry (converting v title rs s) (after (convertAll v title rs) s).registry := by
  induction rs generalizing s with
  | nil => exact .nil s.registry
  | cons r rs ih =>
    have hfirst := passes_convert r v title s
    unfold converting convertAll
    cases h : r.convert v title s with
    | ok wrapper s' =>
      rw [after_of_ok h] at hfirst
      rw [after_congr (bind_of_ok h), registry_after_bind fun _ => sparesRegistry_pure _]
      exact hfirst.append (ih s')
    | error fault s' =>
      rw [after_of_error h] at hfirst
      rw [after_of_error (bind_of_error h), List.append_nil]
      exact hfirst

/-- An errand takes the registry through its events. -/
theorem Errand.passes (errand : Errand) (s : Session) :
    Passes s.registry (errand.events s) (errand.leave s).registry := by
  cases errand with
  | register type provider => exact passes_register type provider s
  | reset => exact passes_reset s
  | resolve v => exact passes_resolve v s
  | forVariant v title => exact passes_withIdentifier _ v s
  | withIdentifier b v => exact passes_withIdentifier b v s
  | build b identifier title =>
    cases identifier with
    | some v => exact passes_build b v title s
    | none =>
      have hspares : SparesRegistry (b.build none title) := by
        rw [Builder.build, Builder.overridden_none]
        exact sparesRegistry_bind (sparesRegistry_pure _) fun _ => sparesRegistry_ofExcept _
      rw [Errand.leave, hspares s]
      exact .nil s.registry
  | convert r v title => exact passes_convert r v title s
  | convertAll rs v title => exact passes_convertAll v title rs s

theorem passes_history (errands : List Errand) (s : Session) :
    Passes s.registry (history errands s) (leaveAll errands s).registry := by
  induction errands generalizing s with
  | nil => exact .nil s.registry
  | cons errand errands ih => exact (errand.passes s).append (ih (errand.leave s))

section Remembered
variable {s : Session} {w : Variant} {key : VariantKey} {r : Resolved}

theorem resolve_of_remembered (hkey : w.key? = some key)
    (hr : s.registry.remembered.lookup key = some r) : ∃ s', resolve w s = .ok r s' := by
  obtain ⟨journal, hok⟩ := resolve_of_ok (Registry.resolve_of_lookup hkey hr)
  exact ⟨_, hok⟩

theorem identify_of_remembered (hkey : w.key? = some key)
    (hr : s.registry.remembered.lookup key = some r) (hstands : w.StandsFor r) :
    ∃ s', identify w s = .ok r s' := by
  rcases hstands with htext | ⟨htext, hurl⟩
  · obtain ⟨s', hresolve⟩ := resolve_of_remembered hkey hr
    exact ⟨s', (identify_of_no_text htext s).trans hresolve⟩
  · obtain ⟨code, url⟩ := r
    subst hurl
    exact ⟨s, identify_of_text htext s⟩

/-- A builder and a report come to what is remembered of a variant exactly if the variant stands for
it. -/
theorem followsRegistry_iff_of_remembered (hkey : w.key? = some key)
    (hr : s.registry.remembered.lookup key = some r) : FollowsRegistry w s ↔ w.StandsFor r := by
  obtain ⟨s', hresolve⟩ := resolve_of_remembered hkey hr
  constructor
  · intro h
    cases htext : w.text? with
    | none => exact .inl htext
    | some code =>
      cases (outcome_of_ok hresolve).symm.trans (outcome_of_started htext h)
      exact .inr ⟨htext, rfl⟩
  · intro hstands
    obtain ⟨t, hidentify⟩ := identify_of_remembered hkey hr hstands
    exact .of_outcome_eq ((outcome_of_ok hidentify).trans (outcome_of_ok hresolve).symm)

theorem convertAll_of_remembered (hkey : w.key? = some key)
    (hr : s.registry.remembered.lookup key = some r) (hstands : w.StandsFor r) {title : String}
    (hcode : r.code ≠ "") (htitle : title ≠ "") (rs : List Report) :
    outcome (convertAll w (.text title) rs) s = .ok (rs.map (·.wrapped [(r.code, title)])) := by
  obtain ⟨s', hidentify⟩ := identify_of_remembered hkey hr hstands
  obtain ⟨t, hok, -⟩ := convertAll_of_identify hidentify hcode htitle rs
  exact outcome_of_ok hok

end Remembered

end Session

section History
open Registry (Event Unbroken)
variable {errands : List Session.Errand} {s : Session} {before stretch later : List Event}
  {v : Variant} {r : Resolved} {fresh : Bool}

theorem exists_passes_stretch (h : Session.history errands s = before ++ stretch ++ later) :
    ∃ reg reg', Registry.Passes reg stretch reg' := by
  have hpasses := Session.passes_history errands s
  rw [h] at hpasses
  obtain ⟨reg', hfront, -⟩ := hpasses.split
  obtain ⟨reg, -, hstretch⟩ := hfront.split
  exact ⟨reg, reg', hstretch⟩

theorem exists_moves_of_history
    (h : Session.history errands s = before ++ .resolved v r fresh :: later) :
    ∃ reg next, Registry.Passes s.registry before reg ∧
      Registry.Moves reg (.resolved v r fresh) next ∧
      Registry.Passes next later (Session.leaveAll errands s).registry := by
  have hpasses := Session.passes_history errands s
  rw [h] at hpasses
  obtain ⟨reg, hbefore, hrest⟩ := hpasses.split
  cases hrest with
  | cons hstep hlater => exact ⟨reg, _, hbefore, hstep, hlater⟩

/-- What is recalled comes from an earlier resolution for which a provider was asked. -/
theorem exists_learned_of_recalled (hblank : s.registry.remembered = [])
    (h : Session.history errands s = before ++ .resolved v r false :: later) :
    ∃ front w back, before = front ++ .resolved w r true :: back ∧ w.key? = v.key? ∧
      Unbroken back := by
  obtain ⟨reg, next, hbefore, hstep, -⟩ := exists_moves_of_history h
  cases hstep.change with
  | recalled hkey hr =>
    rcases hbefore.lookup_origin hr with ⟨-, hold⟩ | ⟨front, w, back, hsplit, hw, hkept⟩
    · rw [hblank] at hold
      cases hold
    · exact ⟨front, w, back, hsplit, hw.trans hkey.symm, hkept⟩

theorem remembered_of_history
    (h : Session.history errands s = before ++ .resolved v r fresh :: later)
    (hkept : Unbroken later) : ∃ key, v.key? = some key ∧
      (Session.leaveAll errands s).registry.remembered.lookup key = some r := by
  obtain ⟨reg, next, -, hstep, hlater⟩ := exists_moves_of_history h
  obtain ⟨key, hkey⟩ := hstep.exists_key
  exact ⟨key, hkey, (hlater.recalled hkept (hstep.lookup_of_resolved hkey)).1⟩

theorem recalled_in_stretch (h : Session.history errands s = before ++ stretch ++ later)
    (hkept : Unbroken stretch) {front back : List Event}
    (hsplit : stretch = front ++ .resolved v r fresh :: back) {e : Event} (he : e ∈ back)
    (hkey : e.key? = v.key?) : ∃ w, e = .resolved w r false := by
  obtain ⟨reg, reg', hstretch⟩ := exists_passes_stretch h
  subst hsplit
  obtain ⟨mid, -, hrest⟩ := hstretch.split
  cases hrest with
  | cons hstep hback =>
    obtain ⟨key, hown⟩ := hstep.exists_key
    have hlasting : Unbroken back := fun e he =>
      hkept e (List.mem_append_right front (List.mem_cons_of_mem _ he))
    exact (hback.recalled hlasting (hstep.lookup_of_resolved hown)).2 e he (hkey.trans hown)

end History

open Registry (Event Passes Moves Unbroken)
open Session (Errand history leaveAll outcome resolve)

/-- The history of a run is the way of its registry. In a stretch of it in which nothing is
forgotten, a provider answers for each variant at most once, and after the first resolution all later
ones are recalled and come to the same. A builder and a report come to it as well exactly if the
variant is no text, or just the text that it is resolved to. What is recalled was resolved before, so
no failure is remembered, and what is remembered of a variant is not changed by the resolution of
another one. -/
theorem resolved_once (errands : List Errand) (s : Session) :
    Passes s.registry (history errands s) (leaveAll errands s).registry ∧
    (∀ before stretch later, history errands s = before ++ stretch ++ later → Unbroken stretch →
      (∀ key, stretch.countP (Event.learns key) ≤ 1) ∧
      ∀ front v r fresh back, stretch = front ++ .resolved v r fresh :: back →
        ∀ e ∈ back, e.key? = v.key? → ∃ w, e = .resolved w r false) ∧
    (∀ before v r later, s.registry.remembered = [] →
      history errands s = before ++ .resolved v r false :: later →
      ∃ front w back, before = front ++ .resolved w r true :: back ∧ w.key? = v.key? ∧
        Unbroken back) ∧
    (∀ before v r fresh later, history errands s = before ++ .resolved v r fresh :: later →
      Unbroken later → ∀ w, w.key? = v.key? →
        outcome (resolve w) (leaveAll errands s) = .ok r ∧
        (FollowsRegistry w (leaveAll errands s) ↔ w.StandsFor r) ∧
        (w.StandsFor r →
          (∀ b : Builder,
            outcome (b.withIdentifier w) (leaveAll errands s) = .ok (b.resolvedTo r)) ∧
          ∀ rs title, r.code ≠ "" → title ≠ "" →
            outcome (convertAll w (.text title) rs) (leaveAll errands s) =
              .ok (rs.map (·.wrapped [(r.code, title)])))) ∧
    (∀ key, Unbroken (history errands s) → (∀ e ∈ history errands s, e.key? ≠ some key) →
      (leaveAll errands s).registry.remembered.lookup key = s.registry.remembered.lookup key) ∧
    ∀ reg v next,
      (∀ r, Moves reg (.resolved v r true) next →
        ∃ p, reg.providerFor v = .ok p ∧ p.resolve v reg.calls = (.ok r, next.calls)) ∧
      (∀ r, Moves reg (.resolved v r false) next → next = reg) ∧
      ∀ fault, Moves reg (.failed v fault) next →
        next.providers = reg.providers ∧ next.remembered = reg.remembered ∧
          (next = reg ∨ ∃ p, reg.providerFor v = .ok p ∧
            p.resolve v reg.calls = (.error fault, next.calls)) := by
  refine ⟨Session.passes_history errands s, ?_, ?_, ?_, ?_, ?_⟩
  · intro before stretch later h hkept
    obtain ⟨reg, reg', hstretch⟩ := exists_passes_stretch h
    refine ⟨hstretch.countP_learns_le_one hkept, ?_⟩
    intro front v r fresh back hsplit e he hkey
    exact recalled_in_stretch h hkept hsplit he hkey
  · intro before v r later hblank h
    exact exists_learned_of_recalled hblank h
  · intro before v r fresh later h hkept w hw
    obtain ⟨key, hkey, hr⟩ := remembered_of_history h hkept
    have hown := hw.trans hkey
    obtain ⟨s', hresolve⟩ := Session.resolve_of_remembered hown hr
    refine ⟨Session.outcome_of_ok hresolve, Session.followsRegistry_iff_of_remembered hown hr, ?_⟩
    intro hstands
    obtain ⟨t, hidentify⟩ := Session.identify_of_remembered hown hr hstands
    refine ⟨fun b => Session.outcome_of_ok (Builder.withIdentifier_of_ok hidentify b), ?_⟩
    intro rs title hcode htitle
    exact Session.convertAll_of_remembered hown hr hstands hcode htitle rs
  · intro key hkept hother
    exact (Session.passes_history errands s).lookup_eq hkept hother
  · intro reg v next
    exact ⟨fun r => Moves.exists_provider, fun r => Moves.eq_of_recalled,
      fun fault => Moves.of_failed⟩

def counting : Provider :=
  .custom 0 "Counting" fun n _ => .ok ⟨if n = 1 then "C1" else "C2", none⟩

/-- Two reports are converted to a variant, which is then resolved once more, before and after its
provider is registered again. -/
def countedErrands : List Errand :=
  [.register lowPriority.type (some counting), .convertAll [marked, marked] lowPriority (.text "a"),
    .resolve lowPriority, .register lowPriority.type (some counting), .resolve lowPriority]

theorem resolved_once_counted :
    history countedErrands Session.initial =
      [.forgot, .resolved lowPriority ⟨"C1", none⟩ true, .resolved lowPriority ⟨"C1", none⟩ false,
        .resolved lowPriority ⟨"C1", none⟩ false, .forgot,
        .resolved lowPriority ⟨"C2", none⟩ true] ∧
    List.countP (Event.learns ⟨8, .member "LOW"⟩)
      [.resolved lowPriority ⟨"C1", none⟩ true, .resolved lowPriority ⟨"C1", none⟩ false,
        .resolved lowPriority ⟨"C1", none⟩ false] ≤ 1 ∧
    outcome (resolve lowPriority) (leaveAll countedErrands Session.initial) = .ok ⟨"C2", none⟩ ∧
    FollowsRegistry lowPriority (leaveAll countedErrands Session.initial) := by
  obtain ⟨-, hstretch, -, hlater, -⟩ := resolved_once countedErrands Session.initial
  have hhistory : history countedErrands Session.initial =
      [.forgot, .resolved lowPriority ⟨"C1", none⟩ true, .resolved lowPriority ⟨"C1", none⟩ false,
        .resolved lowPriority ⟨"C1", none⟩ false, .forgot,
        .resolved lowPriority ⟨"C2", none⟩ true] := rfl
  refine ⟨hhistory, ?_, ?_⟩
  · refine (hstretch [.forgot] _ [.forgot, .resolved lowPriority ⟨"C2", none⟩ true] hhistory ?_).1 _
    simp [Unbroken]
  · obtain ⟨hresolve, hfollows, -⟩ := hlater
      [.forgot, .resolved lowPriority ⟨"C1", none⟩ true, .resolved lowPriority ⟨"C1", none⟩ false,
        .resolved lowPriority ⟨"C1", none⟩ false, .forgot] lowPriority ⟨"C2", none⟩ true [] hhistory
      (by simp [Unbroken]) lowPriority rfl
    exact ⟨hresolve, hfollows.mpr (.inl (by decide))⟩

def textErrands : List Errand :=
  [.register textRed.type (some counting), .resolve textRed]

/-- What a member that is a text was resolved to is remembered, and still a builder that is started
with it and a report that is converted to it come to another identifier. -/
theorem textMember_resolved_otherwise :
    history textErrands Session.initial = [.forgot, .resolved textRed ⟨"C1", none⟩ true] ∧
    outcome (resolve textRed) (leaveAll textErrands Session.initial) = .ok ⟨"C1", none⟩ ∧
    outcome (Builder.forVariant textRed (.text "t")) (leaveAll textErrands Session.initial) =
      .ok { identifier := .text "red", title := .text "t" } ∧
    outcome (marked.convert textRed (.text "t")) (leaveAll textErrands Session.initial) =
      .ok (.wrapping (.bare "red" "t" .error) marked) :=
  ⟨rfl, rfl, rfl, rfl⟩

end Diagnostics
