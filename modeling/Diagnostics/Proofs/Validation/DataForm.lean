import Diagnostics.Proofs.Excerpt.HighlightBounds
import Diagnostics.Validation.DataForm

/-! # Checking the data of a value

A value is written as data in many ways: a line as a pair or as a record, and every record with its
fields in any order and with further fields beside them. However an excerpt is written, its parts
are well typed and hold just that excerpt, whether or not its highlights fit.
-/
namespace Diagnostics

/-- The ways in which a line is written. -/
inductive SourceLine.WrittenAs (l : SourceLine) : Datum → Prop
  | pair : l.WrittenAs (.list [.int l.number, .text l.text])
  | record {fields : List (String × Datum)} (hnumber : fields.lookup "number" = some (.int l.number))
      (htext : fields.lookup "text" = some (.text l.text)) : l.WrittenAs (.record fields)

/-- Some fields hold a highlight, perhaps among others. -/
structure Highlight.WrittenIn (h : Highlight) (fields : List (String × Datum)) : Prop where
  line : fields.lookup "line" = some (.int h.line)
  start : fields.lookup "start" = some (.int h.start)
  stop : fields.lookup "end" = some (.int h.stop)
  note : fields.lookup "note" = some (.ofOption h.note)
  level : fields.lookup "level" = some (.text h.level.word)

def Highlight.WrittenAs (h : Highlight) (d : Datum) : Prop :=
  ∃ fields, d = .record fields ∧ h.WrittenIn fields

/-- Some fields hold an excerpt, perhaps among others. -/
structure Excerpt.WrittenIn (e : Excerpt) (fields : List (String × Datum)) : Prop where
  lines : ∃ ds, fields.lookup "lines" = some (.list ds) ∧
    List.Forall₂ SourceLine.WrittenAs e.lines ds
  highlights : ∃ ds, fields.lookup "highlights" = some (.list ds) ∧
    List.Forall₂ Highlight.WrittenAs e.highlights ds
  file : fields.lookup "file" = some (.ofOption e.file)

def Excerpt.WrittenAs (e : Excerpt) (d : Datum) : Prop :=
  ∃ fields, d = .record fields ∧ e.WrittenIn fields

theorem SourceLine.writtenAs_data (l : SourceLine) : l.WrittenAs l.data := .pair

theorem Highlight.writtenAs_data (h : Highlight) : h.WrittenAs h.data :=
  ⟨_, rfl, rfl, rfl, rfl, rfl, rfl⟩

/-- Values that are written one by one are written in a sequence. -/
theorem forall₂_map_data {α : Type} {written : α → Datum → Prop} {data : α → Datum}
    (h : ∀ a, written a (data a)) (as : List α) : List.Forall₂ written as (as.map data) := by
  rw [List.forall₂_map_right_iff]
  exact List.forall₂_same.mpr fun a _ => h a

theorem Excerpt.writtenAs_data (e : Excerpt) : e.WrittenAs e.data :=
  ⟨_, rfl, ⟨_, rfl, forall₂_map_data SourceLine.writtenAs_data e.lines⟩,
    ⟨_, rfl, forall₂_map_data Highlight.writtenAs_data e.highlights⟩, rfl⟩

namespace Validation
variable {fields : List (String × Datum)} {ds : List Datum}

@[simp] theorem textOrNull_ofOption (s : Option String) : textOrNull (.ofOption s) = .valid s := by
  cases s <;> rfl

@[simp] theorem level_word (l : Level) : level (.text l.word) = .valid l := by
  simp [level]

theorem positive_int {n : Int} (h : 1 ≤ n) : positive (.int n) = .valid n := by
  have hn : ¬ n < 1 := by omega
  simp [positive, integer, Checked.andThen, hn]

theorem sequence_of_forall₂ {α : Type} {check : Check α} {written : α → Datum → Prop} {as : List α}
    (h : List.Forall₂ written as ds) (hcheck : ∀ a ∈ as, ∀ d, written a d → check d = .valid a) :
    sequence check (.list ds) = .valid as := by
  refine items_eq_valid.mpr ?_
  induction h with
  | nil => exact .nil
  | cons ha _ ih =>
    obtain ⟨hhead, htail⟩ := List.forall_mem_cons.mp hcheck
    exact .cons (hhead _ ha) (ih htail)

theorem lineFields_of_lookup {l : SourceLine} (h : 1 ≤ l.number)
    (hnumber : fields.lookup "number" = some (.int l.number))
    (htext : fields.lookup "text" = some (.text l.text)) : lineFields fields = .valid l := by
  simp only [lineFields, Checked.map_eq, Checked.seq_eq, Checked.seq_valid_iff, Checked.map_eq_valid]
  exact ⟨_, _, ⟨_, required_of_lookup hnumber (positive_int h), rfl⟩,
    required_of_lookup htext rfl, rfl⟩

/-- Pairs become lines and records stay what they are, so all items are then checked alike. -/
theorem joinPairs_of_written {lines : List SourceLine} (h : List.Forall₂ SourceLine.WrittenAs lines ds)
    (hpos : ∀ l ∈ lines, 1 ≤ l.number) :
    ∃ joined, joinPairs ds = .valid joined ∧
      List.Forall₂ (fun d l => sourceLine d = .valid l) joined lines := by
  induction h with
  | nil => exact ⟨[], rfl, .nil⟩
  | @cons l d lines ds hl _ ih =>
    obtain ⟨hnumber, hrest⟩ := List.forall_mem_cons.mp hpos
    obtain ⟨joined, hjoined, hall⟩ := ih hrest
    cases hl with
    | pair =>
      have hpair : linePair (.int l.number) (.text l.text) = .valid l :=
        lineFields_of_lookup hnumber rfl rfl
      refine ⟨.line l :: joined, ?_, .cons rfl hall⟩
      rw [joinPairs, hpair, hjoined]
      rfl
    | @record fields hn ht =>
      refine ⟨.record fields :: joined, ?_, .cons (lineFields_of_lookup hnumber hn ht) hall⟩
      rw [joinPairs, hjoined]
      · rfl
      · intro number text heq
        cases heq

theorem excerptLines_of_written {lines : List SourceLine}
    (h : List.Forall₂ SourceLine.WrittenAs lines ds) (hpos : ∀ l ∈ lines, 1 ≤ l.number) :
    excerptLines (.list ds) = .valid lines := by
  obtain ⟨joined, hjoined, hall⟩ := joinPairs_of_written h hpos
  rw [excerptLines, hjoined]
  exact items_eq_valid.mpr hall

theorem highlight_of_written {h : Highlight} {d : Datum} (hd : h.WrittenAs d) :
    highlight d = .valid h := by
  obtain ⟨fields, rfl, hline, hstart, hstop, hnote, hlevel⟩ := hd
  simp only [highlight, Checked.map_eq, Checked.seq_eq, Checked.seq_valid_iff, Checked.map_eq_valid]
  exact ⟨_, _, ⟨_, _, ⟨_, _, ⟨_, _, ⟨_, required_of_lookup hline rfl, rfl⟩,
    required_of_lookup hstart rfl, rfl⟩, required_of_lookup hstop rfl, rfl⟩,
    optional_of_lookup hnote (textOrNull_ofOption h.note), rfl⟩,
    optional_of_lookup hlevel (level_word h.level), rfl⟩

/-- Lines with positive numbers are all that it takes for an excerpt to be well typed. -/
theorem holdsExcerpt_of_written {e : Excerpt} (h : e.WrittenIn fields)
    (hpos : ∀ l ∈ e.lines, 1 ≤ l.number) : HoldsExcerpt fields e := by
  obtain ⟨⟨lines, hlines, hwritten⟩, ⟨highlights, hhighlights, hmarked⟩, hfile⟩ := h
  exact ⟨optional_of_lookup hlines (excerptLines_of_written hwritten hpos),
    optional_of_lookup hhighlights
      (sequence_of_forall₂ hmarked fun _ _ _ => highlight_of_written),
    optional_of_lookup hfile (textOrNull_ofOption e.file)⟩

theorem excerpt_data {e : Excerpt} (h : ∀ l ∈ e.lines, 1 ≤ l.number) :
    ∃ fields, e.data = .record fields ∧ HoldsExcerpt fields e := by
  obtain ⟨fields, hdata, hwritten⟩ := e.writtenAs_data
  exact ⟨fields, hdata, holdsExcerpt_of_written hwritten h⟩

/-- However a sound excerpt is written, the check gives it back. -/
theorem excerpt_of_written {e : Excerpt} (he : e.Sound) {d : Datum} (hd : e.WrittenAs d) :
    excerpt d = .valid e := by
  obtain ⟨fields, rfl, hwritten⟩ := hd
  exact excerptFields_eq_valid.mpr ⟨holdsExcerpt_of_written hwritten he.number_pos, he.fits⟩

end Validation

end Diagnostics
