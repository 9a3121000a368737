import Diagnostics.Proofs.Success
import Diagnostics.Proofs.Validation.DataForm
import Diagnostics.Source.Supplier

/-! # Excerpts stay sound through any run of operations

An excerpt is made from data, from lines or from a source, and then changed by any number of
operations in any order. Each way to make one gives a sound excerpt and each operation keeps it so,
also the one that puts another file in without a further check.
-/
namespace Diagnostics

def SourceLine.Checked (l : SourceLine) : Prop :=
  ∃ fields, Validation.lineFields fields = .valid l

namespace Excerpt

/-- The excerpts that are made anew. Data may hold lines that were checked before. -/
inductive Made : Excerpt → Prop where
  | checked {fields : List (String × Datum)} {e : Excerpt}
      (hlines : ∀ ds l, fields.lookup "lines" = some (.list ds) → Datum.line l ∈ ds → l.Checked)
      (h : Validation.excerpt (.record fields) = .valid e) : Made e
  | line {number text : Datum} {e : Excerpt} (h : Validation.lineFrom number text = .ok e) : Made e
  | lines {first : Int} {texts : List Datum} {e : Excerpt}
      (h : Validation.linesFrom first texts = .ok e) : Made e
  | source {source : String} {first : Int} {supplied : Except Fault (List String)} {e : Excerpt}
      (h : Excerpt.ofSource source first supplied = .ok e) : Made e

/-- The operations on an excerpt; one of them is to check it again as data. -/
inductive Change : Excerpt → Excerpt → Prop where
  | checkedAgain {e e' : Excerpt} (h : Validation.excerpt (.excerpt e) = .valid e') : Change e e'
  | withFile (e : Excerpt) (file : Option String) : Change e (e.withFile file)
  | withHighlight {e e' : Excerpt} {highlight : Highlight}
      (h : e.withHighlight highlight = .ok e') : Change e e'
  | withHighlights {e e' : Excerpt} {highlights : List Highlight}
      (h : e.withHighlights highlights = .ok e') : Change e e'

inductive Reachable : Excerpt → Prop where
  | made {e : Excerpt} (h : Made e) : Reachable e
  | changed {e e' : Excerpt} (he : Reachable e) (h : Change e e') : Reachable e'

theorem numbered_eq_consecutiveLines (texts : List String) (first : Int) :
    numbered first texts = Validation.consecutiveLines first (texts.map .text) := by
  induction texts generalizing first with
  | nil => rfl
  | cons text texts ih =>
    have hline : SourceLine.make first text =
        (Validation.linePair (.int first) (.text text)).toExcept := by
      unfold SourceLine.make
      by_cases h : first < 1 <;>
        simp [h, Validation.linePair, Validation.lineFields, Validation.required,
          List.lookup_cons, Validation.positive, Validation.integer, Validation.text,
          Checked.issue, Checked.andThen, Checked.within, Checked.map, Checked.seq,
          Checked.toExcept]
    simp only [numbered, List.map_cons, Validation.consecutiveLines, hline, ih]

theorem ofLines_eq_linesFrom (texts : List String) (first : Int) :
    ofLines texts first = Validation.linesFrom first (texts.map .text) := by
  simp only [ofLines, Validation.linesFrom, numbered_eq_consecutiveLines]

theorem one_le_of_consecutiveLines {first : Int} {texts : List Datum} {lines : List SourceLine}
    (h : Validation.consecutiveLines first texts = .ok lines) : ∀ l ∈ lines, 1 ≤ l.number := by
  induction texts generalizing first lines with
  | nil =>
    cases h
    simp
  | cons text texts ih =>
    simp only [Validation.consecutiveLines, bind_eq_ok_iff, Checked.toExcept_eq_ok] at h
    obtain ⟨line, hline, rest, hrest, heq⟩ := h
    cases heq
    intro l hl
    rcases List.mem_cons.mp hl with rfl | hl
    · exact Validation.one_le_of_lineFields hline
    · exact ih hrest l hl

theorem linesFrom_sound {first : Int} {texts : List Datum} {e : Excerpt}
    (h : Validation.linesFrom first texts = .ok e) : e.Sound := by
  obtain ⟨lines, hlines, hmake⟩ := bind_eq_ok_iff.mp h
  exact make_sound (one_le_of_consecutiveLines hlines) hmake

theorem withFile_sound {e : Excerpt} (he : e.Sound) (file : Option String) :
    (e.withFile file).Sound :=
  ⟨he.number_pos, he.fits⟩

theorem Made.sound {e : Excerpt} (h : Made e) : e.Sound := by
  cases h with
  | @checked fields _ hlines h =>
    obtain ⟨hholds, hfits⟩ := Validation.excerptFields_eq_valid.mp h
    refine ⟨?_, hfits⟩
    intro l hl
    rcases Validation.optional_eq_valid.mp hholds.lines with ⟨-, hempty⟩ | ⟨d, hd, hvalid⟩
    · rw [← hempty] at hl
      cases hl
    · rcases Validation.mem_excerptLines hvalid hl with ⟨ds, rfl, hmem⟩ | ⟨lineFields, hline⟩
      · obtain ⟨lineFields, hline⟩ := hlines ds l hd hmem
        exact Validation.one_le_of_lineFields hline
      · exact Validation.one_le_of_lineFields hline
  | line h =>
    obtain ⟨l, hl, hmake⟩ := bind_eq_ok_iff.mp h
    refine make_sound ?_ hmake
    intro l' hl'
    rw [List.mem_singleton.mp hl']
    exact Validation.one_le_of_lineFields (Checked.toExcept_eq_ok.mp hl)
  | lines h => exact linesFrom_sound h
  | @source source first supplied _ h =>
    obtain ⟨texts, -, h⟩ := bind_eq_ok_iff.mp h
    obtain ⟨e', he', heq⟩ := bind_eq_ok_iff.mp h
    cases heq
    rw [ofLines_eq_linesFrom] at he'
    exact withFile_sound (linesFrom_sound he') (some source)

/-- No operation puts a highlight where it does not fit, or takes away the line of one. -/
theorem Change.sound {e e' : Excerpt} (h : Change e e') (he : e.Sound) : e'.Sound := by
  cases h with
  | checkedAgain h =>
    cases h
    exact he
  | withFile file => exact withFile_sound he file
  | withHighlight h => exact make_sound he.number_pos h
  | withHighlights h => exact make_sound he.number_pos h

theorem Reachable.sound {e : Excerpt} (h : Reachable e) : e.Sound := by
  induction h with
  | made h => exact h.sound
  | changed _ h ih => exact h.sound ih

theorem withHighlights_eq_ok_iff {e e' : Excerpt} (he : e.Sound) {highlights : List Highlight} :
    e.withHighlights highlights = .ok e' ↔
      e' = { e with highlights := e.highlights ++ highlights } ∧ ∀ h ∈ highlights, h.Fits e.lines := by
  unfold withHighlights
  rw [make_eq_ok_iff]
  simp only [List.forall_mem_append]
  constructor
  · rintro ⟨heq, -, hfits⟩
    exact ⟨heq, hfits⟩
  · rintro ⟨heq, hfits⟩
    exact ⟨heq, he.fits, hfits⟩

end Excerpt

/-- In every excerpt that a run of operations leads to, the lines are numbered from one on and each
highlight lies within all copies of its line. The check behind this refuses nothing else and changes
nothing: well typed data whose highlights fit is accepted as it is, and highlights that fit are
added at the end. -/
theorem highlights_fit_throughout :
    (∀ e : Excerpt, e.Reachable → e.Sound) ∧
    (∀ fields e, Validation.excerpt (.record fields) = .valid e ↔
      Validation.HoldsExcerpt fields e ∧ ∀ h ∈ e.highlights, h.Fits e.lines) ∧
    (∀ e : Excerpt, e.Sound → Validation.excerpt e.data = .valid e) ∧
    ∀ (e e' : Excerpt) (highlights : List Highlight), e.Reachable →
      (e.withHighlights highlights = .ok e' ↔
        e' = { e with highlights := e.highlights ++ highlights } ∧
          ∀ h ∈ highlights, h.Fits e.lines) := by
  refine ⟨fun e he => he.sound, fun fields e => Validation.excerptFields_eq_valid, ?_, ?_⟩
  · intro e he
    obtain ⟨fields, hdata, hholds⟩ := Validation.excerpt_data he.number_pos
    rw [hdata]
    exact Validation.excerptFields_eq_valid.mpr ⟨hholds, he.fits⟩
  · intro e e' highlights he
    exact Excerpt.withHighlights_eq_ok_iff he.sound

theorem highlights_fit_two_copies :
    Excerpt.Reachable ⟨[⟨4, "let x"⟩, ⟨4, "ab"⟩], [⟨4, 1, 2, none, .error⟩], some "a.txt"⟩ ∧
    Excerpt.Sound ⟨[⟨4, "let x"⟩, ⟨4, "ab"⟩], [⟨4, 1, 2, none, .error⟩], some "a.txt"⟩ := by
  have hlines : Validation.excerpt (.record [("lines", .list [.list [.int 4, .text "let x"],
      .list [.int 4, .text "ab"]])]) = .valid ⟨[⟨4, "let x"⟩, ⟨4, "ab"⟩], [], none⟩ := by rfl
  have hmade : Excerpt.Reachable ⟨[⟨4, "let x"⟩, ⟨4, "ab"⟩], [], none⟩ := by
    refine .made (.checked ?_ hlines)
    intro ds l hds hl
    cases hds
    simp at hl
  have hadded : Excerpt.Change ⟨[⟨4, "let x"⟩, ⟨4, "ab"⟩], [], some "a.txt"⟩
      ⟨[⟨4, "let x"⟩, ⟨4, "ab"⟩], [⟨4, 1, 2, none, .error⟩], some "a.txt"⟩ :=
    .withHighlight (show Excerpt.withHighlight _ ⟨4, 1, 2, none, .error⟩ = _ from rfl)
  have hreach := (hmade.changed (.withFile _ (some "a.txt"))).changed hadded
  exact ⟨hreach, highlights_fit_throughout.1 _ hreach⟩

end Diagnostics
