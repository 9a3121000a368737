import Diagnostics.Proofs.Identifier.Requests
import Diagnostics.Proofs.Keyed

/-! # The registry without a memory

A directory keeps for every type the provider that was last registered for it, and nothing else. A
variant is resolved by the provider of the nearest type in its lineage that has one, which is asked
each time anew.
-/
namespace Diagnostics

structure Registration where
  type : VariantType
  provider : Provider

/-- One registration for each type, the latest first. -/
abbrev Directory := List Registration

/-- The answer of a provider that was not asked before. -/
def Provider.answer (p : Provider) (v : Variant) : Except Fault Resolved := (p.resolve v []).1

def Registration.entry (e : Registration) : Nat × VariantType × Provider :=
  (e.type.id, e.type, e.provider)

namespace Directory
open Registry (Request Reply)
variable {d : Directory} {reg : Registry}

def add (d : Directory) (type : VariantType) (p : Provider) : Directory :=
  ⟨type, p⟩ :: d.filter fun e => e.type.id ≠ type.id

def provider? (d : Directory) (type : Nat) : Option Provider :=
  (d.find? fun e => type = e.type.id).map Registration.provider

/-- The provider of the first type in the lineage of a variant that has one. -/
def nearest? (d : Directory) (v : Variant) : Option Provider :=
  v.type.lineage.findSome? d.provider?

def available (d : Directory) : List String :=
  sortedNames (d.map fun e => e.type.qualifiedName)

def providerFor (d : Directory) (v : Variant) : Except Fault Provider :=
  match d.nearest? v with
  | some p => .ok p
  | none => .error (.unknownVariant v.type.qualifiedName d.available)

def resolve (d : Directory) (v : Variant) : Except Fault Resolved :=
  if v.key? = none then .error .unhashable
  else (d.providerFor v).bind fun p => p.answer v

def serve (d : Directory) : Request → Except Fault Reply × Directory
  | .register type given =>
    match Registry.providerOr type given with
    | .ok p => (.ok .done, d.add type p)
    | .error fault => (.error fault, d)
  | .resolve v => ((d.resolve v).map .resolved, d)
  | .providerFor v => ((d.providerFor v).map .provider, d)
  | .available => (.ok (.names d.available), d)
  | .reset => (.ok .done, [])

def afterAll (qs : List Request) (d : Directory) : Directory :=
  qs.foldl (fun d q => (d.serve q).2) d

def outcomes : List Request → Directory → List (Except Fault Reply)
  | [], _ => []
  | q :: qs, d => (d.serve q).1 :: outcomes qs (d.serve q).2

/-- A directory has the providers of a registry, in whatever order. -/
structure Mirrors (d : Directory) (reg : Registry) : Prop where
  keys_nodup : reg.providers.keys.Nodup
  perm : reg.providers.Perm (d.map Registration.entry)

theorem provider?_eq (d : Directory) (type : Nat) :
    d.provider? type = ((d.map Registration.entry).lookup type).map Prod.snd := by
  induction d with
  | nil => rfl
  | cons e d ih =>
    unfold provider? at ih ⊢
    by_cases h : type = e.type.id
    · subst h
      simp [Registration.entry]
    · have hne : (type == e.type.id) = false := by simpa using h
      rw [List.find?_cons_of_neg (by simpa using h), ih, List.map_cons, List.lookup_cons]
      simp only [Registration.entry, hne]

theorem Mirrors.provider? (h : d.Mirrors reg) (type : Nat) :
    d.provider? type = (reg.providers.lookup type).map Prod.snd := by
  rw [provider?_eq, Keyed.lookup_eq_of_perm h.keys_nodup h.perm]

theorem Mirrors.available (h : d.Mirrors reg) : reg.available = d.available := by
  unfold Registry.available Directory.available
  refine sortedNames_eq_of_perm ?_
  have hnames := h.perm.map fun e => e.2.1.qualifiedName
  rw [List.map_map] at hnames
  exact hnames

theorem Mirrors.providerFor (h : d.Mirrors reg) (v : Variant) :
    reg.providerFor v = d.providerFor v := by
  have hnearest : d.nearest? v =
      (v.type.lineage.findSome? fun id => reg.providers.lookup id).map Prod.snd := by
    unfold nearest?
    rw [List.map_findSome?]
    exact congrArg (fun f => v.type.lineage.findSome? f) (funext h.provider?)
  unfold Registry.providerFor Directory.providerFor
  rw [hnearest, h.available]
  cases v.type.lineage.findSome? fun id => reg.providers.lookup id <;> rfl

theorem mirrors_of_blank (h : reg.Blank) : Mirrors [] reg := by
  constructor
  · rw [h.providers]
    exact List.nodup_nil
  · rw [h.providers]
    exact List.Perm.refl _

@[simp] theorem provider?_add_self (d : Directory) (type : VariantType) (p : Provider) :
    (d.add type p).provider? type.id = some p := by
  simp [provider?, add]

theorem provider?_add_of_ne {id : Nat} {type : VariantType} (h : id ≠ type.id) (d : Directory)
    (p : Provider) : (d.add type p).provider? id = d.provider? id := by
  have hfind : (d.filter fun e => e.type.id ≠ type.id).find? (fun e => id = e.type.id) =
      d.find? fun e => id = e.type.id := by
    rw [List.find?_filter]
    refine congrArg (fun test => d.find? test) (funext fun e => ?_)
    by_cases he : id = e.type.id
    · subst he
      simp [h]
    · simp [he]
  unfold provider? add
  rw [List.find?_cons_of_neg (by simpa using h), hfind]

theorem map_entry_add (d : Directory) (type : VariantType) (p : Provider) :
    (d.add type p).map Registration.entry =
      (type.id, type, p) :: Keyed.remove type.id (d.map Registration.entry) := by
  unfold add Keyed.remove
  rw [List.map_cons, List.filter_map]
  refine congrArg₂ List.cons rfl (congrArg _ (List.filter_congr ?_))
  intro e _
  by_cases h : type.id = e.type.id
  · simp [Registration.entry, h]
  · simp [Registration.entry, h, Ne.symm h]

theorem Mirrors.add (h : d.Mirrors reg) (type : VariantType) (p : Provider) :
    (d.add type p).Mirrors (reg.add type p) := by
  constructor
  · exact Keyed.nodup_keys_put _ h.keys_nodup
  · rw [map_entry_add]
    exact (Keyed.put_perm _ h.keys_nodup).trans ((h.perm.filter _).cons _)

/-- What is remembered and how often providers were asked does not matter to a directory. -/
theorem Mirrors.of_providers_eq {reg' : Registry} (h : d.Mirrors reg)
    (heq : reg'.providers = reg.providers) : d.Mirrors reg' := by
  constructor
  · rw [heq]
    exact h.keys_nodup
  · rw [heq]
    exact h.perm

end Directory

end Diagnostics
