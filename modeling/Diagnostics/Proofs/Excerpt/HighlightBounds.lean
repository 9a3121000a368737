import Diagnostics.Proofs.Validation.Fields

/-! # Highlights lie within the lines they are on

An excerpt is sound if its lines have positive numbers and each highlight fits them: its line is
there, and its range lies within every copy of that line. The check that every way to make an
excerpt goes through accepts exactly the highlights that fit and changes none of them, so an excerpt
stays sound through any run of operations.
-/
namespace Diagnostics

/-- A highlight fits some lines if its line is among them and its range lies within each line of
that number. -/
structure Highlight.Fits (h : Highlight) (lines : List SourceLine) : Prop where
  line_mem : ∃ l ∈ lines, l.number = h.line
  start_nonneg : 0 ≤ h.start
  start_le_stop : h.start ≤ h.stop
  stop_le_length : ∀ l ∈ lines, l.number = h.line → h.stop ≤ l.text.length

/-- The invariant of excerpts. -/
structure Excerpt.Sound (e : Excerpt) : Prop where
  number_pos : ∀ l ∈ e.lines, 1 ≤ l.number
  fits : ∀ h ∈ e.highlights, h.Fits e.lines

theorem Excerpt.Sound.number_nonneg {e : Excerpt} (he : e.Sound) {l : SourceLine}
    (hl : l ∈ e.lines) : 0 ≤ l.number :=
  Int.le_trans (Int.zero_le_ofNat 1) (he.number_pos l hl)

theorem mem_lengthsOf {number : Int} {lines : List SourceLine} {n : Nat} :
    n ∈ lengthsOf number lines ↔ ∃ l ∈ lines, l.number = number ∧ l.text.length = n := by
  simp [lengthsOf, and_assoc]

theorem le_foldl_min {k : Int} {n : Nat} {ns : List Nat} :
    k ≤ (ns.foldl min n : Nat) ↔ ∀ m ∈ n :: ns, k ≤ m := by
  induction ns generalizing n with
  | nil => simp
  | cons m ns ih =>
    rw [List.foldl_cons, ih]
    simp only [List.forall_mem_cons]
    rw [← and_assoc, show k ≤ ((min n m : Nat) : Int) ↔ k ≤ n ∧ k ≤ m by omega]

theorem lengthsOf_ne_nil {number : Int} {lines : List SourceLine} :
    lengthsOf number lines ≠ [] ↔ ∃ l ∈ lines, l.number = number := by
  simp [lengthsOf]

/-- Not to be longer than the shortest copy of a line is not to be longer than any of them. -/
theorem le_shortest_iff {k number : Int} {lines : List SourceLine} {n : Nat} {ns : List Nat}
    (h : lengthsOf number lines = n :: ns) :
    k ≤ (ns.foldl min n : Nat) ↔ ∀ l ∈ lines, l.number = number → k ≤ l.text.length := by
  rw [le_foldl_min, ← h]
  constructor
  · intro hle l hl hn
    exact hle _ (mem_lengthsOf.mpr ⟨l, hl, hn, rfl⟩)
  · intro hle m hm
    obtain ⟨l, hl, hn, rfl⟩ := mem_lengthsOf.mp hm
    exact hle l hl hn

theorem misfit?_eq_none_iff {h : Highlight} {lines : List SourceLine} :
    h.misfit? lines = none ↔ h.Fits lines := by
  unfold Highlight.misfit?
  cases hlengths : lengthsOf h.line lines with
  | nil =>
    simp only [reduceCtorEq, false_iff]
    rintro ⟨hmem, -, -, -⟩
    exact lengthsOf_ne_nil.mpr hmem hlengths
  | cons n ns =>
    have hmem : ∃ l ∈ lines, l.number = h.line := lengthsOf_ne_nil.mp (by simp [hlengths])
    have hbound : h.stop ≤ (ns.foldl min n : Nat) ↔ _ := le_shortest_iff hlengths
    dsimp only
    constructor
    · intro hnone
      split at hnone
      · cases hnone
      · split at hnone
        · cases hnone
        · split at hnone
          · cases hnone
          · exact ⟨hmem, by omega, by omega, hbound.mp (by omega)⟩
    · rintro ⟨-, h₁, h₂, h₃⟩
      have h₄ := hbound.mpr h₃
      rw [if_neg (by omega), if_neg (by omega), if_neg (by omega)]

instance (h : Highlight) (lines : List SourceLine) : Decidable (h.Fits lines) :=
  decidable_of_iff _ misfit?_eq_none_iff

instance (e : Excerpt) : Decidable e.Sound :=
  decidable_of_iff ((∀ l ∈ e.lines, 1 ≤ l.number) ∧ ∀ h ∈ e.highlights, h.Fits e.lines)
    ⟨fun h => ⟨h.1, h.2⟩, fun h => ⟨h.number_pos, h.fits⟩⟩

theorem firstMisfit?_eq_none_iff {lines : List SourceLine} {highlights : List Highlight} :
    firstMisfit? lines highlights = none ↔ ∀ h ∈ highlights, h.Fits lines := by
  simp only [firstMisfit?, List.findSome?_eq_none_iff, Option.map_eq_none_iff, misfit?_eq_none_iff]

namespace Excerpt

/-- An excerpt is made just as it is given, and exactly if all highlights fit. -/
theorem make_eq_ok_iff {lines : List SourceLine} {highlights : List Highlight}
    {file : Option String} {e : Excerpt} :
    make lines highlights file = .ok e ↔
      e = ⟨lines, highlights, file⟩ ∧ ∀ h ∈ highlights, h.Fits lines := by
  rw [← firstMisfit?_eq_none_iff]
  constructor
  · intro h
    refine ⟨make_eq_ok h, ?_⟩
    unfold make at h
    split at h
    · cases h
    · assumption
  · rintro ⟨rfl, h⟩
    simp only [make, h]

theorem make_sound {lines : List SourceLine} {highlights : List Highlight} {file : Option String}
    {e : Excerpt} (hlines : ∀ l ∈ lines, 1 ≤ l.number)
    (h : make lines highlights file = .ok e) : e.Sound := by
  obtain ⟨rfl, hfits⟩ := make_eq_ok_iff.mp h
  exact ⟨hlines, hfits⟩

end Excerpt

namespace Validation

/-- The fields of a record hold an excerpt: its lines, its highlights and its file, in order. -/
structure HoldsExcerpt (fields : List (String × Datum)) (e : Excerpt) : Prop where
  lines : optional "lines" [] excerptLines fields = .valid e.lines
  highlights : optional "highlights" [] (sequence highlight) fields = .valid e.highlights
  file : optional "file" none textOrNull fields = .valid e.file

/-- A record is accepted exactly if its fields are well typed and all highlights fit, and then
nothing is changed. -/
theorem excerptFields_eq_valid {fields : List (String × Datum)} {e : Excerpt} :
    excerptFields fields = .valid e ↔
      HoldsExcerpt fields e ∧ ∀ h ∈ e.highlights, h.Fits e.lines := by
  simp only [excerptFields, Checked.map_eq, Checked.seq_eq, Checked.andThen_eq_valid,
    Checked.seq_valid_iff, Checked.map_eq_valid, Checked.ofExcept_eq_valid]
  constructor
  · rintro ⟨_, ⟨_, _, ⟨lines, hlines, rfl⟩, ⟨_, file, ⟨hs, hhs, rfl⟩, hfile, rfl⟩, rfl⟩, hmake⟩
    obtain ⟨rfl, hfits⟩ := Excerpt.make_eq_ok_iff.mp hmake
    exact ⟨⟨hlines, hhs, hfile⟩, hfits⟩
  · rintro ⟨⟨hlines, hhs, hfile⟩, hfits⟩
    exact ⟨_, ⟨_, _, ⟨_, hlines, rfl⟩, ⟨_, _, ⟨_, hhs, rfl⟩, hfile, rfl⟩, rfl⟩,
      Excerpt.make_eq_ok_iff.mpr ⟨rfl, hfits⟩⟩

/-- The lines that were checked before are the only ones that are not checked now. -/
theorem mem_excerptLines {d : Datum} {lines : List SourceLine} (h : excerptLines d = .valid lines)
    {l : SourceLine} (hl : l ∈ lines) :
    (∃ ds, d = .list ds ∧ Datum.line l ∈ ds) ∨ ∃ fields, lineFields fields = .valid l := by
  cases d with
  | list ds =>
    obtain ⟨joined, hjoined, hitems⟩ := Checked.andThen_eq_valid.mp h
    obtain ⟨d, hd, hline⟩ := exists_of_mem_items hitems hl
    rcases sourceLine_eq_valid hline with rfl | hchecked
    · exact (joinPairs_eq_valid hjoined hd).imp_left fun hmem => ⟨ds, rfl, hmem⟩
    · exact Or.inr hchecked
  | record fields =>
    obtain ⟨d, hd, hline⟩ := exists_of_mem_items h hl
    obtain ⟨f, -, rfl⟩ := List.mem_map.mp hd
    cases hline
  | _ => cases h

end Validation

end Diagnostics
