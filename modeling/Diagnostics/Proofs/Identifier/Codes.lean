import Diagnostics.Proofs.Keyed
import Diagnostics.Identifier.Provider
import Mathlib.Data.Set.Function

/-! # The codes of the members of an enumeration

However an enumeration is put together, each of its members has a name of its own, and no text is the
value of two of them. A member whose value is a text with something in it has this text as its code;
all others have their names behind the namespace. Within each of these two kinds the codes are thus
different. Between them, two codes are the same only if the value of one member is just what the code
of the other is made of.
-/
namespace Diagnostics

namespace Enumeration
variable {e : Enumeration}

/-- A member by its name and its value. -/
abbrev Member := String × Datum

/-- Every member has a name of its own, and no text is the value of two members. -/
structure Sound (e : Enumeration) : Prop where
  names : e.members.keys.Nodup
  texts : ∀ a ∈ e.members, ∀ b ∈ e.members, ∀ s, a.2 = .text s → b.2 = .text s → a = b

theorem Sound.eq_of_name_eq (h : e.Sound) {a b : Member} (ha : a ∈ e.members)
    (hb : b ∈ e.members) (hname : a.1 = b.1) : a = b :=
  List.inj_on_of_nodup_map h.names ha hb hname

/-- A name comes in with a value that no member has, or as another name of a member. -/
theorem Sound.add (h : e.Sound) (name : String) (value : Datum) : (e.add name value).Sound := by
  unfold Enumeration.add
  dsimp only
  split
  · exact ⟨h.names, h.texts⟩
  · next hfind =>
    have hnew : ∀ m ∈ e.members, ∀ s, m.2 = .text s → memberValue e.type value ≠ .text s := by
      intro m hm s hs hvalue
      have hdiffers := List.find?_eq_none.mp hfind m hm
      rw [hs, hvalue] at hdiffers
      simp [Datum.same] at hdiffers
    refine ⟨Keyed.nodup_keys_put _ h.names, ?_⟩
    intro a ha b hb s has hbs
    rcases Keyed.eq_or_mem_of_mem_put h.names ha with rfl | ha <;>
      rcases Keyed.eq_or_mem_of_mem_put h.names hb with rfl | hb
    · rfl
    · exact absurd has (hnew b hb s hbs)
    · exact absurd hbs (hnew a ha s has)
    · exact h.texts a ha b hb s has hbs

theorem Sound.foldl_add (h : e.Sound) (given : List (String × Datum)) :
    (given.foldl (fun e m => e.add m.1 m.2) e).Sound := by
  induction given generalizing e with
  | nil => exact h
  | cons m given ih => exact ih (h.add m.1 m.2)

theorem sound_ofMembers (type : VariantType) (given : List (String × Datum)) :
    (ofMembers type given).Sound := by
  have hempty : Sound ⟨type, [], []⟩ := ⟨List.nodup_nil, by simp⟩
  exact hempty.foldl_add given

namespace Member

/-- The member has a text as its value, and there is something in it. -/
def HasOwnCode (a : Member) : Prop := ∃ s, a.2 = .text s ∧ s ≠ ""

/-- The value of a member is what the code of another one is made of. -/
def Forges (space : String) (a b : Member) : Prop :=
  a.2 = .text (inSpace space b.1) ∧ ¬ b.HasOwnCode

def code (space : String) (a : Member) : String := memberCode space a.1 a.2

end Member

end Enumeration

theorem inSpace_ne_empty (space name : String) : inSpace space name ≠ "" := by
  simp [inSpace]

theorem inSpace_inj {space name other : String} :
    inSpace space name = inSpace space other ↔ name = other := by
  unfold inSpace
  exact String.append_right_inj _

namespace Enumeration.Member
variable {space : String} {a b : Member}

theorem code_of_text {s : String} (ha : a.2 = .text s) (hs : s ≠ "") : a.code space = s := by
  unfold code memberCode
  rw [ha]
  exact if_neg hs

theorem code_of_not_hasOwnCode (ha : ¬ a.HasOwnCode) : a.code space = inSpace space a.1 := by
  obtain ⟨name, value⟩ := a
  unfold code
  cases value with
  | text s =>
    have hs : s = "" := by
      by_contra hne
      exact ha ⟨s, rfl, hne⟩
    exact if_pos hs
  | _ => rfl

theorem code_ne_empty (space : String) (a : Member) : a.code space ≠ "" := by
  by_cases ha : a.HasOwnCode
  · obtain ⟨s, hvalue, hs⟩ := ha
    rw [code_of_text hvalue hs]
    exact hs
  · rw [code_of_not_hasOwnCode ha]
    exact inSpace_ne_empty space a.1

theorem Forges.code_eq (h : Forges space a b) : a.code space = b.code space := by
  rw [code_of_text h.1 (inSpace_ne_empty space b.1), code_of_not_hasOwnCode h.2]

theorem forges_of_code_eq (ha : a.HasOwnCode) (hb : ¬ b.HasOwnCode)
    (h : a.code space = b.code space) : Forges space a b := by
  obtain ⟨s, hvalue, hs⟩ := ha
  rw [code_of_text hvalue hs, code_of_not_hasOwnCode hb] at h
  exact ⟨h ▸ hvalue, hb⟩

end Enumeration.Member

namespace Enumeration
variable {e : Enumeration} {space : String} {a b : Member}

/-- Members of one kind have different codes, as the texts or the names of the two are different. -/
theorem Sound.eq_of_code_eq (h : e.Sound) (ha : a ∈ e.members) (hb : b ∈ e.members)
    (hkind : a.HasOwnCode ↔ b.HasOwnCode) (hcode : a.code space = b.code space) : a = b := by
  by_cases hown : a.HasOwnCode
  · obtain ⟨s, has, hs⟩ := hown
    obtain ⟨t, hbt, ht⟩ := hkind.mp ⟨s, has, hs⟩
    rw [Member.code_of_text has hs, Member.code_of_text hbt ht] at hcode
    exact h.texts a ha b hb s has (hcode ▸ hbt)
  · rw [Member.code_of_not_hasOwnCode hown, Member.code_of_not_hasOwnCode (hkind.not.mp hown),
      inSpace_inj] at hcode
    exact h.eq_of_name_eq ha hb hcode

theorem Sound.code_eq_iff (h : e.Sound) (ha : a ∈ e.members) (hb : b ∈ e.members) (hne : a ≠ b) :
    a.code space = b.code space ↔ Member.Forges space a b ∨ Member.Forges space b a := by
  constructor
  · intro hcode
    by_cases hown : a.HasOwnCode <;> by_cases hother : b.HasOwnCode
    · exact absurd (h.eq_of_code_eq ha hb (iff_of_true hown hother) hcode) hne
    · exact .inl (Member.forges_of_code_eq hown hother hcode)
    · exact .inr (Member.forges_of_code_eq hother hown hcode.symm)
    · exact absurd (h.eq_of_code_eq ha hb (iff_of_false hown hother) hcode) hne
  · rintro (hforges | hforges)
    · exact hforges.code_eq
    · exact hforges.code_eq.symm

end Enumeration

namespace Provider

/-- The namespace that is used: the one that is given, if there is something in it, and otherwise the
name of the type. -/
def spaceOr (type : VariantType) (space : Option String) : String :=
  (space.filter (· ≠ "")).getD type.qualifiedName

theorem ofEnumeration_eq (type : VariantType) (space : Option String) (linker : Option DocLinker) :
    ofEnumeration type space linker = .members type (spaceOr type space) linker := by
  cases space with
  | none => rfl
  | some s => by_cases hs : s = "" <;> simp [ofEnumeration, spaceOr, Option.filter, hs]

/-- The code that a provider gives to a member of a type. -/
def codeOf (p : Provider) (type : VariantType) (a : Enumeration.Member) : Option String :=
  p.codeFor? (.member type a.1 a.2)

theorem codeOf_ofEnumeration (type : VariantType) (space : Option String)
    (linker : Option DocLinker) (a : Enumeration.Member) :
    (ofEnumeration type space linker).codeOf type a = some (a.code (spaceOr type space)) := by
  rw [ofEnumeration_eq]
  rfl

end Provider

open Enumeration (Member)

/-- The codes of the members of an enumeration. No code is empty, and two members have one code exactly
if one of them has as its value the namespace and the name of the other, and the other one has no text
of its own. So the members that have texts of their own have different codes, as have all others; and
if no value consists of the namespace and the name of a member, all codes are different. -/
theorem codes_collide_only_by_forgery (type : VariantType) (given : List (String × Datum))
    (space : Option String) (linker : Option DocLinker) :
    let members := (Enumeration.ofMembers type given).members
    let codeOf := (Provider.ofEnumeration type space linker).codeOf type
    let used := Provider.spaceOr type space
    (∀ a ∈ members, ∃ code, codeOf a = some code ∧ code ≠ "") ∧
    (∀ a ∈ members, ∀ b ∈ members, a ≠ b →
      (codeOf a = codeOf b ↔ Member.Forges used a b ∨ Member.Forges used b a)) ∧
    Set.InjOn codeOf {a | a ∈ members ∧ Member.HasOwnCode a} ∧
    Set.InjOn codeOf {a | a ∈ members ∧ ¬ Member.HasOwnCode a} ∧
    ((∀ a ∈ members, ∀ b ∈ members, a.2 ≠ .text (inSpace used b.1)) →
      Set.InjOn codeOf {a | a ∈ members}) := by
  intro members codeOf used
  have hsound := Enumeration.sound_ofMembers type given
  have hcode : ∀ a, codeOf a = some (Member.code used a) :=
    Provider.codeOf_ofEnumeration type space linker
  have hiff : ∀ a b, codeOf a = codeOf b ↔ Member.code used a = Member.code used b := by
    intro a b
    rw [hcode, hcode, Option.some_inj]
  refine ⟨?_, ?_, ?_, ?_, ?_⟩
  · intro a _
    exact ⟨_, hcode a, Member.code_ne_empty used a⟩
  · intro a ha b hb hne
    rw [hiff]
    exact hsound.code_eq_iff ha hb hne
  · rintro a ⟨ha, hown⟩ b ⟨hb, hother⟩ h
    exact hsound.eq_of_code_eq ha hb (iff_of_true hown hother) ((hiff a b).mp h)
  · rintro a ⟨ha, hown⟩ b ⟨hb, hother⟩ h
    exact hsound.eq_of_code_eq ha hb (iff_of_false hown hother) ((hiff a b).mp h)
  · intro hfree a ha b hb h
    by_contra hne
    rcases (hsound.code_eq_iff ha hb hne).mp ((hiff a b).mp h) with hforges | hforges
    · exact hfree a ha b hb hforges.1
    · exact hfree b hb a ha hforges.1

def noteType : VariantType := ⟨8, "Disk", "Disk", "m", [0], true⟩

/-- A member whose value is a number, one without a text, and one whose value looks like the code of
the first. -/
def noteMembers : List Member :=
  [("FULL", .int 1), ("QUIET", .text ""), ("NOTE", .text "Disk::FULL")]

/-- The third member has the code of the first one, and the second has a code of its own. With another
namespace, all three have different codes. -/
theorem codes_collide_only_by_forgery_note :
    let members := (Enumeration.ofMembers noteType noteMembers).members
    let codeOf := fun space => (Provider.ofEnumeration noteType space none).codeOf noteType
    members = noteMembers ∧
    codeOf none ("NOTE", .text "Disk::FULL") = codeOf none ("FULL", .int 1) ∧
    codeOf (some "") ("QUIET", .text "") ≠ codeOf (some "") ("FULL", .int 1) ∧
    Set.InjOn (codeOf (some "disk")) {a | a ∈ members} := by
  intro members codeOf
  have hmembers : members = noteMembers := rfl
  have hfull : ("FULL", .int 1) ∈ members := by simp [hmembers, noteMembers]
  have hquiet : ("QUIET", .text "") ∈ members := by simp [hmembers, noteMembers]
  have hnote : ("NOTE", .text "Disk::FULL") ∈ members := by simp [hmembers, noteMembers]
  refine ⟨hmembers, ?_, ?_, ?_⟩
  · obtain ⟨-, hiff, -⟩ := codes_collide_only_by_forgery noteType noteMembers none none
    refine (hiff _ hnote _ hfull (by simp)).mpr (.inl ⟨rfl, ?_⟩)
    rintro ⟨s, hs, -⟩
    cases hs
  · obtain ⟨-, -, -, hinj, -⟩ := codes_collide_only_by_forgery noteType noteMembers (some "") none
    intro h
    have hsame := hinj ⟨hquiet, by simp [Member.HasOwnCode]⟩ ⟨hfull, by simp [Member.HasOwnCode]⟩ h
    simp at hsame
  · obtain ⟨-, -, -, -, hfree⟩ := codes_collide_only_by_forgery noteType noteMembers (some "disk") none
    refine hfree ?_
    change ∀ a ∈ members, ∀ b ∈ members, a.2 ≠ .text (inSpace "disk" b.1)
    rw [hmembers]
    simp [noteMembers, inSpace]

end Diagnostics
