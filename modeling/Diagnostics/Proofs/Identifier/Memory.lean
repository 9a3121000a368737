import Diagnostics.Proofs.Identifier.Directory

/-! # The memory of the registry cannot be seen

Every remembered answer is the one that the providers registered now would give, so a registry
answers a run of requests just like a directory, which remembers nothing. A registration clears the
memory, which is why a provider that is put in late, also for a nearer type, counts at once.
-/
namespace Diagnostics

/-- A provider whose answers do not hang on how often it was asked. -/
def Provider.Pure (p : Provider) : Prop :=
  ∀ v calls, (p.resolve v calls).1 = p.answer v

theorem Provider.pure_members (type : VariantType) (space : String) (linker : Option DocLinker) :
    (Provider.members type space linker).Pure := fun _ _ => rfl

theorem Provider.pure_table (codes urls : Keyed (String × String) String) :
    (Provider.table codes urls).Pure := fun _ _ => rfl

/-- Providers that are pure, and variants that they can tell apart only if the variants are of
different types or differ within their type. -/
structure Tame (providers : Provider → Prop) (variants : Variant → Prop) : Prop where
  pure : ∀ p, providers p → p.Pure
  apart : TypesApart variants
  alike : ∀ p v w, providers p → variants v → variants w → v.type = w.type → v.key? = w.key? →
    v.key? ≠ none → p.answer v = p.answer w

namespace Registry

/-- The request brings in none but certain providers and variants. -/
def Request.Within (providers : Provider → Prop) (variants : Variant → Prop) : Request → Prop
  | .register type given => ∀ p, providerOr type given = .ok p → providers p
  | .resolve v => variants v
  | _ => True

end Registry

section Simulation
open Registry (Request Reply)
variable {providers : Provider → Prop} {variants : Variant → Prop}
variable {reg : Registry} {d : Directory} {s : Session}

/-- A registry that remembers nothing but what a directory would answer. -/
structure Directory.Explains (providers : Provider → Prop) (variants : Variant → Prop)
    (d : Directory) (reg : Registry) : Prop where
  mirrors : d.Mirrors reg
  within : ∀ e ∈ d, providers e.provider
  current : ∀ v key r, variants v → v.key? = some key → reg.remembered.lookup key = some r →
    d.resolve v = .ok r

namespace Directory

theorem explains_of_blank (h : reg.Blank) : Explains providers variants [] reg := by
  refine ⟨mirrors_of_blank h, by simp, ?_⟩
  intro v key r _ _ hr
  rw [h.remembered] at hr
  cases hr

theorem mem_of_providerFor {v : Variant} {p : Provider} (h : d.providerFor v = .ok p) :
    ∃ e ∈ d, e.provider = p := by
  unfold providerFor at h
  split at h
  · rename_i found hnearest
    cases h
    obtain ⟨id, -, hid⟩ := List.exists_of_findSome?_eq_some hnearest
    obtain ⟨e, he, rfl⟩ := Option.map_eq_some_iff.mp hid
    exact ⟨e, List.mem_of_find?_eq_some he, rfl⟩
  · cases h

theorem resolve_of_key {v : Variant} {key : VariantKey} (h : v.key? = some key) :
    d.resolve v = (d.providerFor v).bind fun p => p.answer v := by
  simp [resolve, h]

theorem Explains.add (h : d.Explains providers variants reg) (type : VariantType) {p : Provider}
    (hp : providers p) : (d.add type p).Explains providers variants (reg.add type p) := by
  refine ⟨h.mirrors.add type p, ?_, ?_⟩
  · intro e he
    rcases List.mem_cons.mp he with rfl | he
    · exact hp
    · exact h.within e (List.mem_filter.mp he).1
  · intro v key r _ _ hr
    cases hr

/-- A new answer is that of the directory for every variant under its key. -/
theorem Explains.learn (h : d.Explains providers variants reg) (ht : Tame providers variants)
    {v : Variant} {key : VariantKey} {r : Resolved} (hv : variants v) (hkey : v.key? = some key)
    (hr : d.resolve v = .ok r) (calls : Calls) :
    d.Explains providers variants { reg with remembered := reg.remembered.put key r, calls } := by
  refine ⟨h.mirrors.of_providers_eq rfl, h.within, ?_⟩
  intro w other r' hw hother hr'
  by_cases hsame : other = key
  · subst hsame
    obtain rfl : r = r' := by simpa using hr'
    have htype := ht.apart.type_eq hw hv hother hkey
    have hprovider : d.providerFor w = d.providerFor v := by
      unfold providerFor nearest?
      rw [htype]
    rw [resolve_of_key hkey] at hr
    rw [resolve_of_key hother, hprovider]
    cases hp : d.providerFor v with
    | error fault =>
      rw [hp] at hr
      cases hr
    | ok p =>
      obtain ⟨e, he, rfl⟩ := mem_of_providerFor hp
      have halike := ht.alike e.provider w v (h.within e he) hw hv htype
        (hother.trans hkey.symm) (by simp [hother])
      rw [hp] at hr
      exact halike.trans hr
  · rw [show (reg.remembered.put key r).lookup other = _ from
      Keyed.lookup_put_of_ne hsame r reg.remembered] at hr'
    exact h.current w other r' hw hother hr'

end Directory

/-- What is left of a resolution: the outcome that the directory has, and a registry that it
explains. -/
def Directory.Accounts (providers : Provider → Prop) (variants : Variant → Prop) (d : Directory)
    (v : Variant) : EStateM.Result Fault Registry (Resolved × Bool) → Prop
  | .ok (r, _) reg => d.resolve v = .ok r ∧ d.Explains providers variants reg
  | .error fault reg => d.resolve v = .error fault ∧ d.Explains providers variants reg

theorem Registry.resolve_explained (h : d.Explains providers variants reg)
    (ht : Tame providers variants) {v : Variant} (hv : variants v) :
    d.Accounts providers variants v (Registry.resolve v reg) := by
  have hfresh : ∀ {key : VariantKey} {p : Provider}, v.key? = some key →
      reg.providerFor v = .ok p → d.resolve v = (p.resolve v reg.calls).1 := by
    intro key p hkey hp
    rw [h.mirrors.providerFor] at hp
    obtain ⟨e, he, rfl⟩ := Directory.mem_of_providerFor hp
    rw [Directory.resolve_of_key hkey, hp, ht.pure _ (h.within e he)]
    rfl
  have hresolution := Registry.resolution reg v
  generalize Registry.resolve v reg = result at hresolution
  cases hresolution with
  | unhashable hkey => exact ⟨by simp [Directory.resolve, hkey], h⟩
  | recalled hkey hr => exact ⟨h.current _ _ _ hv hkey hr, h⟩
  | unprovided hkey hnew hp =>
    rw [h.mirrors.providerFor] at hp
    refine ⟨?_, h⟩
    rw [Directory.resolve_of_key hkey, hp]
    rfl
  | learned hkey hnew hp hr =>
    have hd := hfresh hkey hp
    rw [hr] at hd
    exact ⟨hd, h.learn ht hv hkey hd _⟩
  | failed hkey hnew hp hr =>
    have hd := hfresh hkey hp
    rw [hr] at hd
    exact ⟨hd, h.mirrors.of_providers_eq rfl, h.within, h.current⟩

namespace Session

/-- One request is answered as by the directory, which goes on to explain the registry. -/
theorem serve_explained (h : d.Explains providers variants s.registry)
    (ht : Tame providers variants) {q : Request} (hq : q.Within providers variants) :
    outcome (serve q) s = (d.serve q).1 ∧
      (d.serve q).2.Explains providers variants (after (serve q) s).registry := by
  have hservice := service q s
  unfold outcome after
  generalize serve q s = result at hservice
  cases hservice with
  | registered hp =>
    simp only [Directory.serve, hp]
    exact ⟨trivial, h.add _ (hq _ hp)⟩
  | notRegistered hp =>
    simp only [Directory.serve, hp]
    exact ⟨trivial, h⟩
  | resolved hr =>
    have haccounts := Registry.resolve_explained h ht hq
    rw [hr] at haccounts
    obtain ⟨hd, hthen⟩ := haccounts
    simp only [Directory.serve, hd]
    exact ⟨rfl, hthen⟩
  | notResolved hr =>
    have haccounts := Registry.resolve_explained h ht hq
    rw [hr] at haccounts
    obtain ⟨hd, hthen⟩ := haccounts
    simp only [Directory.serve, hd]
    exact ⟨rfl, hthen⟩
  | provided hp | notProvided hp =>
    rw [h.mirrors.providerFor] at hp
    simp only [Directory.serve, hp]
    exact ⟨rfl, h⟩
  | listed =>
    rw [Directory.serve, ← h.mirrors.available]
    exact ⟨rfl, h⟩
  | cleared => exact ⟨rfl, Directory.explains_of_blank ⟨rfl, rfl⟩⟩

theorem afterAll_explained (h : d.Explains providers variants s.registry)
    (ht : Tame providers variants) {qs : List Request}
    (hqs : ∀ q ∈ qs, q.Within providers variants) :
    (d.afterAll qs).Explains providers variants (afterAll qs s).registry := by
  induction qs generalizing d s with
  | nil => exact h
  | cons q qs ih =>
    obtain ⟨hq, hqs⟩ := List.forall_mem_cons.mp hqs
    exact ih (serve_explained h ht hq).2 hqs

theorem outcomes_explained (h : d.Explains providers variants s.registry)
    (ht : Tame providers variants) {qs : List Request}
    (hqs : ∀ q ∈ qs, q.Within providers variants) : outcomes qs s = d.outcomes qs := by
  induction qs generalizing d s with
  | nil => rfl
  | cons q qs ih =>
    obtain ⟨hq, hqs⟩ := List.forall_mem_cons.mp hqs
    obtain ⟨hanswer, hafter⟩ := serve_explained h ht hq
    rw [outcomes, Directory.outcomes, hanswer, ih hafter hqs]

/-- Requests that fail leave the providers and the memory alone. -/
theorem registry_eq_of_serve_error {q : Request} {fault : Fault} {s' : Session}
    (h : serve q s = .error fault s') :
    s'.registry.providers = s.registry.providers ∧
      s'.registry.remembered = s.registry.remembered := by
  have hservice := service q s
  rw [h] at hservice
  cases hservice with
  | notRegistered | notProvided => exact ⟨rfl, rfl⟩
  | @notResolved v fault reg hr =>
    have hcase := Registry.resolution s.registry v
    rw [hr] at hcase
    cases hcase <;> exact ⟨rfl, rfl⟩

end Session

/-- A provider that is registered for a type is the one that resolves the variants below it, as far
as no type in between has a provider. -/
theorem Directory.resolve_add {type : VariantType} {p : Provider} {v : Variant}
    {nearer farther : List Nat} (hkey : v.key? ≠ none)
    (hlineage : v.type.lineage = nearer ++ type.id :: farther)
    (hnearer : ∀ id ∈ nearer, id ≠ type.id ∧ d.provider? id = none) :
    (d.add type p).resolve v = p.answer v := by
  have hnone : nearer.findSome? (d.add type p).provider? = none := by
    rw [List.findSome?_eq_none_iff]
    intro id hid
    obtain ⟨hne, hid⟩ := hnearer id hid
    rw [provider?_add_of_ne hne, hid]
  have hnearest : (d.add type p).nearest? v = some p := by
    unfold nearest?
    rw [hlineage, List.findSome?_append, hnone, List.findSome?_cons, provider?_add_self]
    rfl
  simp [resolve, hkey, providerFor, hnearest, Except.bind]

end Simulation

open Registry (Request) in
/-- With pure providers that treat equal variants of one type alike, a run of requests is answered
as if nothing were remembered. So a resolution has no influence on another one, be it of an equal
member of another enumeration, and a provider that is registered after a resolution counts at once,
also for a nearer type. Requests that fail leave the providers and the memory alone. -/
theorem memory_invisible :
    (∀ (providers : Provider → Prop) (variants : Variant → Prop) (qs : List Request) (s : Session),
      Tame providers variants → s.registry.Blank → (∀ q ∈ qs, q.Within providers variants) →
      Session.outcomes qs s = Directory.outcomes qs [] ∧
      (∀ v w, variants v → variants w →
        Session.outcome (Session.serve (.resolve w)) (Session.afterAll (qs ++ [.resolve v]) s) =
          Session.outcome (Session.serve (.resolve w)) (Session.afterAll qs s)) ∧
      ∀ type given p v nearer farther, Registry.providerOr type given = .ok p → providers p →
        variants v → v.key? ≠ none → v.type.lineage = nearer ++ type.id :: farther →
        (∀ id ∈ nearer, id ≠ type.id ∧
          (Session.afterAll qs s).registry.providers.lookup id = none) →
        Session.outcome (Session.serve (.resolve v))
          (Session.afterAll (qs ++ [.register type given]) s) = (p.answer v).map .resolved) ∧
    ∀ q s fault s', Session.serve q s = .error fault s' →
      s'.registry.providers = s.registry.providers ∧
        s'.registry.remembered = s.registry.remembered := by
  refine ⟨?_, fun q s fault s' => Session.registry_eq_of_serve_error⟩
  intro providers variants qs s ht hblank hqs
  have hstart : Directory.Explains providers variants [] s.registry :=
    Directory.explains_of_blank hblank
  have hend := Session.afterAll_explained hstart ht hqs
  have happend : ∀ q, Session.afterAll (qs ++ [q]) s =
      Session.after (Session.serve q) (Session.afterAll qs s) := by
    intro q
    simp [Session.afterAll]
  refine ⟨Session.outcomes_explained hstart ht hqs, ?_, ?_⟩
  · intro v w hv hw
    have hthen := (Session.serve_explained (q := .resolve v) hend ht hv).2
    rw [happend, (Session.serve_explained (q := .resolve w) hthen ht hw).1,
      (Session.serve_explained (q := .resolve w) hend ht hw).1]
    rfl
  · intro type given p v nearer farther hgiven hp hv hkey hlineage hnearer
    have hq : Request.Within providers variants (.register type given) := by
      intro p' hp'
      rw [hgiven] at hp'
      cases hp'
      exact hp
    have hthen := (Session.serve_explained (q := .register type given) hend ht hq).2
    have hadd : ((Directory.afterAll qs []).serve (.register type given)).2 =
        (Directory.afterAll qs []).add type p := by
      simp only [Directory.serve, hgiven]
    rw [happend, (Session.serve_explained (q := .resolve v) hthen ht hv).1, hadd, Directory.serve,
      Directory.resolve_add hkey hlineage]
    intro id hid
    refine ⟨(hnearer id hid).1, ?_⟩
    rw [hend.mirrors.provider?, (hnearer id hid).2]
    rfl

/-! Two enumerations of texts below a third one, each with a member of the same name and value. -/
namespace Palette

def base : VariantType := ⟨8, "Palette", "Palette", "m", [1, 0], true⟩

def shade : VariantType := ⟨10, "Shade", "Shade", "m", [8, 1, 0], true⟩

def colorRed : Variant := .member ⟨9, "Color", "Color", "m", [8, 1, 0], true⟩ "RED" (.text "red")

def shadeRed : Variant := .member shade "RED" (.text "red")

def shadeCodes : Provider := .table [(("Shade", "RED"), "S1")] []

theorem tame : Tame (fun p => p = .ofEnumeration base none none ∨ p = shadeCodes)
    (fun v => v = colorRed ∨ v = shadeRed) := by
  refine ⟨?_, ?_, ?_⟩
  · rintro p (rfl | rfl)
    · exact Provider.pure_members _ _ _
    · exact Provider.pure_table _ _
  · rintro v w (rfl | rfl) (rfl | rfl) hid
    · rfl
    · cases hid
    · cases hid
    · rfl
  · rintro p v w - (rfl | rfl) (rfl | rfl) htype - -
    · rfl
    · cases htype
    · cases htype
    · rfl

end Palette

open Palette in
theorem memory_invisible_equal_members :
    Tame (fun p => p = .ofEnumeration base none none ∨ p = shadeCodes)
      (fun v => v = colorRed ∨ v = shadeRed) ∧
    Session.outcomes [.register base none, .resolve colorRed, .resolve shadeRed,
        .register shade (some shadeCodes), .resolve shadeRed, .resolve colorRed] Session.initial =
      [.ok .done, .ok (.resolved ⟨"red", none⟩), .ok (.resolved ⟨"red", none⟩), .ok .done,
        .ok (.resolved ⟨"S1", none⟩), .ok (.resolved ⟨"red", none⟩)] := by
  have hqs : ∀ q ∈ [Registry.Request.register base none, .resolve colorRed, .resolve shadeRed,
      .register shade (some shadeCodes), .resolve shadeRed, .resolve colorRed],
      q.Within (fun p => p = .ofEnumeration base none none ∨ p = shadeCodes)
        (fun v => v = colorRed ∨ v = shadeRed) := by
    simp [Registry.Request.Within, Registry.providerOr, base]
  refine ⟨tame, ?_⟩
  rw [(memory_invisible.1 _ _ _ Session.initial tame ⟨rfl, rfl⟩ hqs).1]
  rfl

end Diagnostics
