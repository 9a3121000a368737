import Diagnostics.Proofs.Text.Words
import Mathlib.Data.List.DropRight
import Mathlib.Data.List.Infix
import Mathlib.Order.Bounds.Defs

/-! # The columns of words, and where a search for a word ends

A search gives the first place at which the word stands from where the search began. So a search
for the second word of a text goes astray exactly if the word stands earlier, and as it holds no
blanks, this is to stand in that end of the first word which the search still sees.
-/
namespace Diagnostics.Text

/-- The words of a text by number, the first one being number zero, each with the column on which it
starts. -/
inductive WordAt : List Char → Nat → Nat → List Char → Prop where
  | first {gap word rest cs : List Char} (h : StartsWith gap word rest cs) :
      WordAt cs 0 gap.length word
  | later {gap word rest cs : List Char} {n column : Nat} {other : List Char}
      (h : StartsWith gap word rest cs) (hrest : WordAt rest n column other) :
      WordAt cs (n + 1) (gap.length + word.length + column) other

namespace StartsWith
variable {gap word rest gap' word' rest' cs : List Char}

theorem gap_eq_takeWhile (h : StartsWith gap word rest cs) : gap = cs.takeWhile isBlank := by
  obtain ⟨c, word', rfl⟩ := List.exists_cons_of_ne_nil h.word_ne_nil
  have hc : isBlank c = false := h.word_solid c List.mem_cons_self
  rw [h.eq_append, List.append_assoc, List.takeWhile_append_of_pos h.gap_blank, List.cons_append,
    List.takeWhile_cons_of_neg (by simp [hc]), List.append_nil]

theorem word_eq_takeWhile (h : StartsWith gap word rest cs) :
    word = (word ++ rest).takeWhile fun c => !isBlank c := by
  have hrest : rest.takeWhile (fun c => !isBlank c) = [] := by
    cases rest with
    | nil => rfl
    | cons c rest => exact List.takeWhile_cons_of_neg (by simp [h.rest_blank c rfl])
  have hword : ∀ c ∈ word, (!isBlank c) = true := by simpa using h.word_solid
  rw [List.takeWhile_append_of_pos hword, hrest, List.append_nil]

theorem unique (h : StartsWith gap word rest cs) (h' : StartsWith gap' word' rest' cs) :
    gap = gap' ∧ word = word' ∧ rest = rest' := by
  have hgap : gap = gap' := h.gap_eq_takeWhile.trans h'.gap_eq_takeWhile.symm
  subst hgap
  have htail : word ++ rest = word' ++ rest' := by
    have hcs := h.eq_append.symm.trans h'.eq_append
    rwa [List.append_assoc, List.append_assoc, List.append_cancel_left_eq] at hcs
  have hword : word = word' := by
    rw [h.word_eq_takeWhile, htail, ← h'.word_eq_takeWhile]
  subst hword
  exact ⟨rfl, rfl, List.append_cancel_left htail⟩

end StartsWith

theorem WordAt.unique {cs word word' : List Char} {n column column' : Nat}
    (h : WordAt cs n column word) (h' : WordAt cs n column' word') :
    column = column' ∧ word = word' := by
  induction h generalizing column' with
  | first hstarts =>
    cases h' with
    | first hstarts' =>
      obtain ⟨rfl, rfl, -⟩ := hstarts.unique hstarts'
      exact ⟨rfl, rfl⟩
  | later hstarts _ ih =>
    cases h' with
    | later hstarts' hrest' =>
      obtain ⟨rfl, rfl, rfl⟩ := hstarts.unique hstarts'
      obtain ⟨rfl, rfl⟩ := ih hrest'
      exact ⟨rfl, rfl⟩

theorem isLeast_firstIndex? {word cs : List Char} {i : Nat} (h : firstIndex? word cs = some i) :
    IsLeast {j | word <+: cs.drop j} i := by
  induction cs generalizing i with
  | nil =>
    cases word with
    | nil =>
      cases h
      exact ⟨List.nil_prefix, fun j _ => Nat.zero_le j⟩
    | cons c word => cases h
  | cons c cs ih =>
    rw [firstIndex?] at h
    split at h
    · next hfront =>
      cases h
      exact ⟨List.isPrefixOf_iff_prefix.mp hfront, fun j _ => Nat.zero_le j⟩
    · next hfront =>
      obtain ⟨i, hi, rfl⟩ := Option.map_eq_some_iff.mp h
      obtain ⟨hstands, hleast⟩ := ih hi
      refine ⟨hstands, ?_⟩
      rintro (_ | j) hj
      · exact absurd (List.isPrefixOf_iff_prefix.mpr hj) hfront
      · exact Nat.succ_le_succ (hleast hj)

theorem isLeast_firstIndexFrom? {word cs : List Char} {start i : Nat}
    (h : firstIndexFrom? word start cs = some i) :
    IsLeast {j | start ≤ j ∧ word <+: cs.drop j} i := by
  obtain ⟨k, hk, rfl⟩ := Option.map_eq_some_iff.mp h
  obtain ⟨hstands, hleast⟩ := isLeast_firstIndex? hk
  have hfound : word <+: (cs.drop start).drop k := hstands
  rw [List.drop_drop, Nat.add_comm start k] at hfound
  refine ⟨⟨Nat.le_add_left start k, hfound⟩, ?_⟩
  rintro j ⟨hj, hword⟩
  obtain ⟨m, rfl⟩ := Nat.exists_eq_add_of_le hj
  have hlater : word <+: (cs.drop start).drop m := by rwa [List.drop_drop]
  have hkm : k ≤ m := hleast hlater
  omega

section SecondWord
variable {front keyword rest between value back cs : List Char}

/-- A word without blanks that stands in front of a blank, or of nothing, ends there at the latest. -/
theorem prefix_of_prefix_append (hsolid : ∀ c ∈ value, isBlank c = false)
    (hrest : ∀ c ∈ rest.head?, isBlank c = true) (h : value <+: front ++ rest) :
    value <+: front := by
  by_cases hlength : value.length ≤ front.length
  · exact List.prefix_of_prefix_length_le h (List.prefix_append front rest) hlength
  · obtain ⟨more, rfl⟩ := List.prefix_of_prefix_length_le (List.prefix_append front rest) h (by omega)
    obtain ⟨c, more, rfl⟩ := List.exists_cons_of_ne_nil (l := more) (by rintro rfl; simp at hlength)
    obtain ⟨tail, rfl⟩ := (List.prefix_append_right_inj front).mp h
    have hblank : isBlank c = true := hrest c rfl
    rw [hsolid c (by simp)] at hblank
    cases hblank

theorem solid_of_prefix_drop {i : Nat} (hne : value ≠ []) (hsolid : ∀ c ∈ value, isBlank c = false)
    (h : value <+: cs.drop i) : ∃ c, cs[i]? = some c ∧ isBlank c = false := by
  obtain ⟨c, value, rfl⟩ := List.exists_cons_of_ne_nil hne
  obtain ⟨tail, htail⟩ := h
  refine ⟨c, ?_, hsolid c List.mem_cons_self⟩
  have hhead := congrArg List.head? htail
  rw [List.head?_drop] at hhead
  exact hhead.symm

variable (hfirst : StartsWith front keyword rest cs) (hsecond : StartsWith between value back rest)
include hfirst hsecond

theorem prefix_drop_column :
    value <+: cs.drop (front.length + keyword.length + between.length) := by
  have hcs : cs = (front ++ keyword ++ between) ++ (value ++ back) := by
    rw [hfirst.eq_append, hsecond.eq_append]
    simp only [List.append_assoc]
  rw [hcs, List.drop_left' (by simp [Nat.add_assoc])]
  exact List.prefix_append value back

/-- What stands in front of the second word, and looks like it, stands within the first one. -/
theorem within_keyword {i : Nat} (h : value <+: cs.drop i)
    (hi : i < front.length + keyword.length + between.length) :
    front.length ≤ i ∧ value <+: keyword.drop (i - front.length) := by
  obtain ⟨c, hc, hsolid⟩ := solid_of_prefix_drop hsecond.word_ne_nil hsecond.word_solid h
  have hnot : ∀ {gap : List Char} {j : Nat}, (∀ b ∈ gap, isBlank b = true) → gap[j]? ≠ some c := by
    intro gap j hgap hj
    rw [hgap c (List.mem_of_getElem? hj)] at hsolid
    cases hsolid
  have hfront : front.length ≤ i := by
    by_contra hlt
    rw [hfirst.eq_append, List.append_assoc, List.getElem?_append_left (by omega)] at hc
    exact hnot hfirst.gap_blank hc
  have hend : i < front.length + keyword.length := by
    by_contra hle
    rw [hfirst.eq_append, List.getElem?_append_right (by simp; omega), hsecond.eq_append,
      List.append_assoc, List.getElem?_append_left (by simp; omega)] at hc
    exact hnot hsecond.gap_blank hc
  refine ⟨hfront, ?_⟩
  have hdrop : cs.drop i = keyword.drop (i - front.length) ++ rest := by
    rw [hfirst.eq_append, List.append_assoc, List.drop_append, List.drop_eq_nil_of_le hfront,
      List.nil_append, List.drop_append_of_le_length (by omega)]
  exact prefix_of_prefix_append hsecond.word_solid hfirst.rest_blank (hdrop ▸ h)

/-- A search for the second word, from as far on as the first one is long, ends at it exactly if it
does not stand in the end of the first word, which is as long as the blanks in front of that. -/
theorem eq_column_iff {start : Nat}
    (hstart : IsLeast {i | keyword.length ≤ i ∧ value <+: cs.drop i} start) :
    start = front.length + keyword.length + between.length ↔
      ¬ value <:+: keyword.rtake front.length := by
  have hvalue : 0 < value.length := List.length_pos_iff.mpr hsecond.word_ne_nil
  constructor
  · rintro rfl ⟨before, after, hinfix⟩
    let skipped := front ++ keyword.take (keyword.length - front.length) ++ before
    have hcs : cs = skipped ++ (value ++ (after ++ rest)) := by
      conv_lhs => rw [hfirst.eq_append, ← List.take_append_drop (keyword.length - front.length) keyword]
      change front ++ (_ ++ keyword.rtake front.length) ++ rest = _
      simp only [skipped, ← hinfix, List.append_assoc]
    have hlength := congrArg List.length hinfix
    simp only [List.rtake, List.length_append, List.length_drop] at hlength
    have hskipped : skipped.length =
        front.length + (keyword.length - front.length) + before.length := by
      simp [skipped]
      omega
    have hstands : value <+: cs.drop skipped.length := by
      rw [hcs, List.drop_left]
      exact List.prefix_append _ _
    have hle := hstart.2 ⟨by omega, hstands⟩
    omega
  · intro hinfix
    by_contra hne
    have hcolumn := prefix_drop_column hfirst hsecond
    have hle := hstart.2 ⟨by omega, hcolumn⟩
    obtain ⟨hfront, hwithin⟩ := within_keyword hfirst hsecond hstart.1.2 (by omega)
    have hlong := hstart.1.1
    have hsuffix : keyword.drop (start - front.length) <:+ keyword.rtake front.length := by
      have hsplit : start - front.length =
          (keyword.length - front.length) + (start - keyword.length - (front.length - keyword.length)) := by
        omega
      rw [hsplit, ← List.drop_drop]
      exact List.drop_suffix _ _
    exact hinfix (hwithin.isInfix.trans hsuffix.isInfix)

end SecondWord

end Diagnostics.Text
