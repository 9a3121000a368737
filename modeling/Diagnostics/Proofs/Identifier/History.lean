import Diagnostics.Proofs.Identifier.Requests

/-! # The history of a registry

A registry goes from event to event: a variant is resolved, or fails to be, or all resolutions are
forgotten. Between two moments of the last kind what a variant was first resolved to stays
remembered, so no provider is asked for it again and all later resolutions come to the same. A
failure is not remembered, and no resolution touches what is remembered under another key.
-/
namespace Diagnostics

namespace Registry

/-- A resolution that succeeded or failed, or that all of them were forgotten. The flag says whether
a provider was asked. -/
inductive Event where
  | resolved (v : Variant) (r : Resolved) (fresh : Bool)
  | failed (v : Variant) (fault : Fault)
  | forgot

namespace Event

def key? : Event → Option VariantKey
  | resolved v _ _ | failed v _ => v.key?
  | forgot => none

/-- A provider was asked for a variant under a key and answered. -/
def learns (key : VariantKey) : Event → Bool
  | resolved v _ true => v.key? = some key
  | _ => false

theorem key?_of_learns {key : VariantKey} {e : Event} (h : e.learns key = true) :
    e.key? = some key := by
  cases e with
  | resolved v r fresh =>
    cases fresh with
    | true => exact of_decide_eq_true h
    | false => cases h
  | failed | forgot => cases h

end Event

def Unbroken (es : List Event) : Prop :=
  ∀ e ∈ es, e ≠ .forgot

def event (v : Variant) (reg : Registry) : Event :=
  match resolve v reg with
  | .ok (r, fresh) _ => .resolved v r fresh
  | .error fault _ => .failed v fault

/-- An event takes a registry to the next one. -/
inductive Moves (reg : Registry) : Event → Registry → Prop where
  | resolved {next : Registry} {v : Variant} {r : Resolved} {fresh : Bool}
      (h : resolve v reg = .ok (r, fresh) next) : Moves reg (.resolved v r fresh) next
  | failed {next : Registry} {v : Variant} {fault : Fault}
      (h : resolve v reg = .error fault next) : Moves reg (.failed v fault) next
  | forgot {next : Registry} (hnone : next.remembered = []) (hcalls : next.calls = reg.calls) :
      Moves reg .forgot next

inductive Passes : Registry → List Event → Registry → Prop where
  | nil (reg : Registry) : Passes reg [] reg
  | cons {reg next last : Registry} {e : Event} {es : List Event} (h : Moves reg e next)
      (hrest : Passes next es last) : Passes reg (e :: es) last

/-- What an event does to what is remembered. -/
inductive Change (reg : Registry) : Event → Registry → Prop where
  | recalled {v : Variant} {key : VariantKey} {r : Resolved} (hkey : v.key? = some key)
      (hr : reg.remembered.lookup key = some r) : Change reg (.resolved v r false) reg
  | learned {v : Variant} {key : VariantKey} {p : Provider} {r : Resolved} {calls : Calls}
      (hkey : v.key? = some key) (hnew : reg.remembered.lookup key = none)
      (hp : reg.providerFor v = .ok p) (hr : p.resolve v reg.calls = (.ok r, calls)) :
      Change reg (.resolved v r true) { reg with remembered := reg.remembered.put key r, calls }
  | refused {v : Variant} {fault : Fault}
      (hnew : ∀ key, v.key? = some key → reg.remembered.lookup key = none) :
      Change reg (.failed v fault) reg
  | failed {v : Variant} {key : VariantKey} {p : Provider} {fault : Fault} {calls : Calls}
      (hkey : v.key? = some key) (hnew : reg.remembered.lookup key = none)
      (hp : reg.providerFor v = .ok p) (hr : p.resolve v reg.calls = (.error fault, calls)) :
      Change reg (.failed v fault) { reg with calls }
  | forgot {next : Registry} (hnone : next.remembered = []) : Change reg .forgot next

theorem Moves.change {reg next : Registry} {e : Event} (h : Moves reg e next) : Change reg e next := by
  cases h with
  | @resolved next v r fresh h =>
    have hresolution := resolution reg v
    rw [h] at hresolution
    cases hresolution with
    | recalled hkey hr => exact .recalled hkey hr
    | learned hkey hnew hp hr => exact .learned hkey hnew hp hr
  | @failed next v fault h =>
    have hresolution := resolution reg v
    rw [h] at hresolution
    cases hresolution with
    | unhashable hkey =>
      refine .refused fun key hother => ?_
      cases hkey.symm.trans hother
    | unprovided hkey hnew _ =>
      refine .refused fun key hother => ?_
      cases hkey.symm.trans hother
      exact hnew
    | failed hkey hnew hp hr => exact .failed hkey hnew hp hr
  | forgot hnone _ => exact .forgot hnone

section Moves
variable {reg next : Registry} {e : Event} {v : Variant} {key : VariantKey} {r : Resolved}
  {fresh : Bool}

theorem Moves.lookup_of_resolved (h : Moves reg (.resolved v r fresh) next)
    (hkey : v.key? = some key) : next.remembered.lookup key = some r := by
  cases h.change with
  | recalled hown hr =>
    cases hkey.symm.trans hown
    exact hr
  | learned hown _ _ _ =>
    cases hkey.symm.trans hown
    exact Keyed.lookup_put_self _ _ _

theorem Moves.exists_key (h : Moves reg (.resolved v r fresh) next) : ∃ key, v.key? = some key := by
  cases h.change with
  | recalled hkey _ | learned hkey _ _ _ => exact ⟨_, hkey⟩

theorem Moves.lookup_of_key?_ne (h : Moves reg e next) (hforgot : e ≠ .forgot)
    (hkey : e.key? ≠ some key) : next.remembered.lookup key = reg.remembered.lookup key := by
  cases h.change with
  | recalled | refused | failed => rfl
  | learned hown _ _ _ =>
    refine Keyed.lookup_put_of_ne ?_ _ _
    rintro rfl
    exact hkey hown
  | forgot => exact absurd rfl hforgot

theorem Moves.eq_of_recalled (h : Moves reg (.resolved v r false) next) : next = reg := by
  cases h.change with
  | recalled => rfl

theorem Moves.exists_provider (h : Moves reg (.resolved v r true) next) :
    ∃ p, reg.providerFor v = .ok p ∧ p.resolve v reg.calls = (.ok r, next.calls) := by
  cases h.change with
  | learned _ _ hp hr => exact ⟨_, hp, hr⟩

/-- A failure is not remembered, whether the provider of the variant was asked or not. -/
theorem Moves.of_failed {fault : Fault} (h : Moves reg (.failed v fault) next) :
    next.providers = reg.providers ∧ next.remembered = reg.remembered ∧
      (next = reg ∨ ∃ p, reg.providerFor v = .ok p ∧
        p.resolve v reg.calls = (.error fault, next.calls)) := by
  cases h.change with
  | refused => exact ⟨rfl, rfl, .inl rfl⟩
  | failed _ _ hp hr => exact ⟨rfl, rfl, .inr ⟨_, hp, hr⟩⟩

theorem Moves.eq_recalled (h : Moves reg e next) (hr : reg.remembered.lookup key = some r)
    (hkey : e.key? = some key) : ∃ w, e = .resolved w r false ∧ next = reg := by
  cases h.change with
  | recalled hown hr' =>
    cases hkey.symm.trans hown
    cases hr.symm.trans hr'
    exact ⟨_, rfl, rfl⟩
  | learned hown hnew _ _ | failed hown hnew _ _ =>
    cases hkey.symm.trans hown
    cases hr.symm.trans hnew
  | refused hnew => cases hr.symm.trans (hnew key hkey)
  | forgot => cases hkey

theorem Moves.lookup_kept (h : Moves reg e next) (hforgot : e ≠ .forgot)
    (hr : reg.remembered.lookup key = some r) : next.remembered.lookup key = some r := by
  by_cases hkey : e.key? = some key
  · obtain ⟨w, rfl, rfl⟩ := h.eq_recalled hr hkey
    exact hr
  · exact (h.lookup_of_key?_ne hforgot hkey).trans hr

theorem Moves.lookup_origin (h : Moves reg e next) (hr : next.remembered.lookup key = some r) :
    e ≠ .forgot ∧ reg.remembered.lookup key = some r ∨
      ∃ w, e = .resolved w r true ∧ w.key? = some key := by
  cases h.change with
  | recalled | refused | failed => exact .inl ⟨Event.noConfusion, hr⟩
  | @learned v own _ r' _ hown _ _ _ =>
    by_cases hsame : key = own
    · subst hsame
      obtain rfl : r' = r := Option.some.inj ((Keyed.lookup_put_self _ _ _).symm.trans hr)
      exact .inr ⟨v, rfl, hown⟩
    · exact .inl ⟨Event.noConfusion, (Keyed.lookup_put_of_ne hsame _ _).symm.trans hr⟩
  | forgot hnone =>
    rw [hnone] at hr
    cases hr

end Moves

namespace Passes
variable {reg mid last : Registry} {es fs : List Event} {key : VariantKey} {r : Resolved}

theorem single {e : Event} (h : Moves reg e last) : Passes reg [e] last :=
  .cons h (.nil last)

theorem append (h : Passes reg es mid) (hrest : Passes mid fs last) :
    Passes reg (es ++ fs) last := by
  induction h with
  | nil => exact hrest
  | cons hstep _ ih => exact .cons hstep (ih hrest)

theorem split (h : Passes reg (es ++ fs) last) : ∃ mid, Passes reg es mid ∧ Passes mid fs last := by
  induction es generalizing reg with
  | nil => exact ⟨reg, .nil reg, h⟩
  | cons e es ih =>
    cases h with
    | cons hstep hrest =>
      obtain ⟨mid, hes, hfs⟩ := ih hrest
      exact ⟨mid, .cons hstep hes, hfs⟩

/-- As long as nothing is forgotten, what is remembered stays so and is recalled each time. -/
theorem recalled (h : Passes reg es last) (hkept : Unbroken es)
    (hr : reg.remembered.lookup key = some r) : last.remembered.lookup key = some r ∧
      ∀ e ∈ es, e.key? = some key → ∃ w, e = .resolved w r false := by
  induction h with
  | nil => exact ⟨hr, by simp⟩
  | cons hstep _ ih =>
    obtain ⟨hfirst, hlater⟩ := List.forall_mem_cons.mp hkept
    obtain ⟨hlast, hall⟩ := ih hlater (hstep.lookup_kept hfirst hr)
    refine ⟨hlast, List.forall_mem_cons.mpr ⟨fun hkey => ?_, hall⟩⟩
    obtain ⟨w, rfl, -⟩ := hstep.eq_recalled hr hkey
    exact ⟨w, rfl⟩

/-- As long as nothing is forgotten, a provider answers for a key at most once. -/
theorem countP_learns_le_one (h : Passes reg es last) (hkept : Unbroken es) (key : VariantKey) :
    es.countP (Event.learns key) ≤ 1 := by
  induction h with
  | nil => exact Nat.zero_le 1
  | @cons reg next last e es hstep hrest ih =>
    have hlater := (List.forall_mem_cons.mp hkept).2
    cases hlearns : e.learns key with
    | false => simpa [List.countP_cons, hlearns] using ih hlater
    | true =>
      -- From the answer on, every resolution under the key is recalled.
      have hnone : es.countP (Event.learns key) = 0 := by
        cases e with
        | resolved v r fresh =>
          have hkey := Event.key?_of_learns hlearns
          have hlookup := hstep.lookup_of_resolved hkey
          rw [List.countP_eq_zero]
          intro e he hagain
          obtain ⟨w, rfl⟩ := (hrest.recalled hlater hlookup).2 e he (Event.key?_of_learns hagain)
          cases hagain
        | failed | forgot => cases hlearns
      simp [hlearns, hnone]

/-- What is remembered at last was remembered at first, or a provider gave it since, and after that
nothing was forgotten. -/
theorem lookup_origin (h : Passes reg es last) (hr : last.remembered.lookup key = some r) :
    Unbroken es ∧ reg.remembered.lookup key = some r ∨
      ∃ before w after, es = before ++ .resolved w r true :: after ∧ w.key? = some key ∧
        Unbroken after := by
  induction h with
  | nil => exact .inl ⟨by simp [Unbroken], hr⟩
  | @cons reg next last e es hstep hrest ih =>
    rcases ih hr with ⟨hkept, hnext⟩ | ⟨before, w, after, rfl, hkey, hkept⟩
    · rcases hstep.lookup_origin hnext with ⟨hne, hreg⟩ | ⟨w, rfl, hkey⟩
      · exact .inl ⟨List.forall_mem_cons.mpr ⟨hne, hkept⟩, hreg⟩
      · exact .inr ⟨[], w, es, rfl, hkey, hkept⟩
    · exact .inr ⟨e :: before, w, after, rfl, hkey, hkept⟩

theorem lookup_eq (h : Passes reg es last) (hkept : Unbroken es)
    (hkey : ∀ e ∈ es, e.key? ≠ some key) :
    last.remembered.lookup key = reg.remembered.lookup key := by
  induction h with
  | nil => rfl
  | cons hstep _ ih =>
    obtain ⟨hfirst, hlater⟩ := List.forall_mem_cons.mp hkept
    obtain ⟨hother, hothers⟩ := List.forall_mem_cons.mp hkey
    exact (ih hlater hothers).trans (hstep.lookup_of_key?_ne hfirst hother)

end Passes

end Registry

end Diagnostics
