import Diagnostics.Proofs.Layout.Drawing
import Diagnostics.Proofs.Render.CauseChain
import Diagnostics.Proofs.Text.Numerals
import Mathlib.Data.List.SplitBy

/-! # Where the characters of a rendering come from

Every character on a row of a report is printable ASCII that the renderer writes by itself, or
stands in a text that the report or one of its causes holds. This is stated for an arbitrary
condition that the characters of both sources meet, so that what holds of all given texts is seen
to hold of what is shown.
-/
namespace Diagnostics

/-- What the renderer writes by itself, besides numbers. -/
def ownTexts : List String :=
  ["error", "warning", "info", "[", "]: ", "  ", "=", " defined at ", ":", "-->", " ", "|", "^", "~",
    "-", "help", "url", ": ", "caused by:", "no messages!", "encountered: ", "info message", "s", ", "]

/-- The characters that the renderer writes by itself. -/
def isOwn (c : Char) : Bool := c.isDigit || ownTexts.any fun s => s.toList.contains c

/-- What the renderer writes by itself is printable ASCII. -/
theorem printable_of_isOwn {c : Char} (h : isOwn c = true) : 0x20 ≤ c.toNat ∧ c.toNat ≤ 0x7e := by
  rcases Bool.or_eq_true_iff.mp h with hdigit | hfixed
  · simp only [Char.isDigit, Bool.and_eq_true, decide_eq_true_eq, ge_iff_le] at hdigit
    have hlow : 48 ≤ c.toNat := hdigit.1
    have hhigh : c.toNat ≤ 57 := hdigit.2
    omega
  · -- `List.all` walks the texts; a bounded quantifier may be decided by trying every character.
    have hall : (ownTexts.all fun s => s.toList.all fun d =>
        decide (0x20 ≤ d.toNat ∧ d.toNat ≤ 0x7e)) = true := by decide
    obtain ⟨s, hs, hc⟩ := List.any_eq_true.mp hfixed
    have htext := List.all_eq_true.mp (List.all_eq_true.mp hall s hs) c
    exact of_decide_eq_true (htext (List.contains_iff_mem.mp hc))

def MadeOf (P : Char → Prop) (s : String) : Prop := ∀ c ∈ s.toList, P c

def Row.MadeOf (P : Char → Prop) (row : Row) : Prop := ∀ s ∈ row.spans, Diagnostics.MadeOf P s.text

def Excerpt.texts (e : Excerpt) : List String :=
  e.file.toList ++ e.lines.map SourceLine.text ++ e.highlights.filterMap Highlight.note

def Finding.texts (f : Finding) : List String :=
  [f.identifier, f.title] ++ f.message.toList ++ f.help.toList ++ f.docUrl.toList
    ++ (f.site.map Site.file).toList ++ f.excerpts.flatMap Excerpt.texts

/-- The texts that a report and its causes hold. -/
def Report.texts (r : Report) : List String := r.chain.flatMap Finding.texts

variable {P : Char → Prop}

@[simp] theorem madeOf_append {s t : String} : MadeOf P (s ++ t) ↔ MadeOf P s ∧ MadeOf P t := by
  simp [MadeOf, or_imp, forall_and]

@[simp] theorem Row.madeOf_nil : (Row.ofSpans []).MadeOf P := List.forall_mem_nil _

@[simp] theorem Row.madeOf_cons {s : Span} {ss : List Span} :
    (Row.ofSpans (s :: ss)).MadeOf P ↔ Diagnostics.MadeOf P s.text ∧ (Row.ofSpans ss).MadeOf P :=
  List.forall_mem_cons

@[simp] theorem Row.madeOf_append {ss ts : List Span} :
    (Row.ofSpans (ss ++ ts)).MadeOf P ↔ (Row.ofSpans ss).MadeOf P ∧ (Row.ofSpans ts).MadeOf P :=
  List.forall_mem_append

@[simp] theorem Span.text_bare (s : String) : (Span.bare s).text = s := rfl

@[simp] theorem Span.text_inRole (r : Role) (s : String) : (Span.inRole r s).text = s := rfl

/-- What is left of a row of cells when a stroke is drawn over it was there, or is blank, or belongs
to the stroke. -/
theorem mem_draw {cells : List Cell} {s : Stroke} {cell : Cell} (h : cell ∈ draw cells s) :
    cell ∈ cells ∨ cell = .blank ∨ cell ∈ s.cells := by
  have hpadded : cell ∈ cells ++ List.replicate (s.column - cells.length) Cell.blank →
      cell ∈ cells ∨ cell = .blank := by
    intro h
    rcases List.mem_append.mp h with h | h
    · exact .inl h
    · exact .inr (List.eq_of_mem_replicate h)
  unfold draw at h
  rcases List.mem_append.mp h with h | h
  · rcases List.mem_append.mp h with h | h
    · rcases hpadded (List.mem_of_mem_take h) with h | h
      · exact .inl h
      · exact .inr (.inl h)
    · exact .inr (.inr h)
  · rcases hpadded (List.mem_of_mem_drop h) with h | h
    · exact .inl h
    · exact .inr (.inl h)

theorem mem_draw_all {strokes : List Stroke} {cells : List Cell} {cell : Cell}
    (h : cell ∈ strokes.foldl draw cells) :
    cell ∈ cells ∨ cell = .blank ∨ ∃ s ∈ strokes, cell ∈ s.cells := by
  induction strokes generalizing cells with
  | nil => exact .inl h
  | cons s rest ih =>
    rcases ih h with h | h | ⟨t, ht, hcell⟩
    · rcases mem_draw h with h | h | h
      · exact .inl h
      · exact .inr (.inl h)
      · exact .inr (.inr ⟨s, List.mem_cons_self, h⟩)
    · exact .inr (.inl h)
    · exact .inr (.inr ⟨t, List.mem_cons_of_mem s ht, hcell⟩)

theorem mem_strokes_chars {h : Highlight} {s : Stroke} {c : Char} (hs : s ∈ h.strokes)
    (hc : c ∈ s.chars) : c = h.level.glyph ∨ c = ' ' ∨ ∃ note, h.note = some note ∧ c ∈ note.toList := by
  rcases Highlight.mem_strokes.mp hs with rfl | ⟨-, rfl⟩
  · exact .inl (List.eq_of_mem_replicate hc)
  · unfold Highlight.noteStroke Highlight.noteChars at hc
    split at hc
    · cases hc
    · next note hnote =>
      split at hc
      · cases hc
      · rcases List.mem_cons.mp hc with h | h
        · exact .inr (.inl h)
        · exact .inr (.inr ⟨note, hnote, h⟩)

theorem madeOf_cellSpans {cells : List Cell} (h : ∀ cell ∈ cells, P cell.char) :
    ∀ s ∈ cellSpans cells, MadeOf P s.text := by
  intro s hs c hc
  obtain ⟨group, hgroup, rfl⟩ := List.mem_map.mp hs
  have hcells : ∀ cell ∈ group, cell ∈ cells := by
    intro cell hcell
    have hmem := List.mem_flatten_of_mem hgroup hcell
    rwa [List.flatten_splitBy] at hmem
  cases group with
  | nil => simp [cellSpan, Span.bare] at hc
  | cons d ds =>
    rw [cellSpan, String.toList_ofList, ← List.map_cons] at hc
    obtain ⟨cell, hcell, rfl⟩ := List.mem_map.mp hc
    exact h cell (hcells cell hcell)

theorem madeOf_rowOf {text : Option String} {row : String → Row}
    (h : ∀ s ∈ text, (row s).MadeOf P) : ∀ r ∈ rowOf text row, r.MadeOf P := by
  cases text with
  | none => simp [rowOf]
  | some s =>
    unfold rowOf
    dsimp only
    split
    · simp
    · simpa using h s rfl

theorem mem_of_mem_intersperse {α : Type} {a between : α} {l : List α}
    (h : a ∈ l.intersperse between) : a = between ∨ a ∈ l := by
  induction l with
  | nil => cases h
  | cons b l ih =>
    cases l with
    | nil => exact .inr h
    | cons c l =>
      rw [List.intersperse_cons_cons] at h
      rcases List.mem_cons.mp h with rfl | h
      · exact .inr List.mem_cons_self
      · rcases List.mem_cons.mp h with rfl | h
        · exact .inl rfl
        · exact (ih h).imp_right (List.mem_cons_of_mem b)

section Own
variable (hown : ∀ c, isOwn c = true → P c)
include hown

theorem madeOf_own {s : String} (h : s.toList.all isOwn = true) : MadeOf P s :=
  fun c hc => hown c (List.all_eq_true.mp h c hc)

theorem madeOf_natural (n : Nat) : MadeOf P (Text.natural n) := by
  intro c hc
  have hdigit : c.isDigit = true := Text.isDigit_of_mem_natural hc
  exact hown c (Bool.or_eq_true_iff.mpr (.inl hdigit))

theorem madeOf_decimal (n : Int) : MadeOf P (Text.decimal n) := by
  cases n with
  | ofNat n => exact madeOf_natural hown n
  | negSucc n =>
    have hsign : MadeOf P "-" := madeOf_own hown (by decide)
    exact madeOf_append.mpr ⟨hsign, madeOf_natural hown (n + 1)⟩

theorem madeOf_blanks (n : Nat) : MadeOf P (blanks n) := by
  intro c hc
  rw [blanks, String.toList_ofList] at hc
  rw [List.eq_of_mem_replicate hc]
  exact hown ' ' (by decide)

theorem madeOf_markerCells {hs : List Highlight}
    (hnotes : ∀ h ∈ hs, ∀ note ∈ h.note, MadeOf P note) : ∀ cell ∈ markerCells hs, P cell.char := by
  intro cell hcell
  rcases mem_draw_all hcell with h | rfl | ⟨s, hs', hcell⟩
  · cases h
  · exact hown ' ' (by decide)
  · obtain ⟨h, hh, hstroke⟩ := List.mem_flatMap.mp hs'
    obtain ⟨c, hc, rfl⟩ := List.mem_map.mp hcell
    rcases mem_strokes_chars hstroke hc with hglyph | hblank | ⟨note, hnote, hmem⟩
    · have hP : P h.level.glyph := hown _ (by cases h.level <;> decide)
      exact hglyph ▸ hP
    · exact hblank ▸ hown ' ' (by decide)
    · exact hnotes h (List.mem_mergeSort.mp hh) note hnote c hmem

theorem madeOf_position {file : String} (hfile : MadeOf P file) (line column : Int) :
    MadeOf P (file ++ ":" ++ Text.decimal line ++ ":" ++ Text.decimal column) := by
  have hcolon : MadeOf P ":" := madeOf_own hown (by decide)
  simp only [madeOf_append]
  exact ⟨⟨⟨⟨hfile, hcolon⟩, madeOf_decimal hown line⟩, hcolon⟩, madeOf_decimal hown column⟩

namespace Excerpt

theorem madeOf_placeRow {e : Excerpt} {file : String} (hfile : MadeOf P file) :
    (e.placeRow file).MadeOf P := by
  have hplace : MadeOf P (e.place file) := by
    unfold place
    split
    · exact madeOf_position hown hfile _ _
    · exact hfile
  simp only [placeRow, Row.madeOf_cons, Row.madeOf_nil, and_true, Span.text_bare, Span.text_inRole,
    madeOf_append]
  exact ⟨madeOf_blanks hown _, madeOf_own hown (by decide), madeOf_own hown (by decide), hplace⟩

theorem madeOf_lineRow (width : Nat) {l : SourceLine} (htext : MadeOf P l.text) :
    (lineRow width l).MadeOf P := by
  have htail : (Row.ofSpans (if l.text = "" then [] else [.bare (" " ++ l.text)])).MadeOf P := by
    split
    · exact Row.madeOf_nil
    · simp only [Row.madeOf_cons, Row.madeOf_nil, and_true, Span.text_bare, madeOf_append]
      exact ⟨madeOf_own hown (by decide), htext⟩
  unfold lineRow
  rw [Row.madeOf_append]
  refine ⟨?_, htail⟩
  simp only [Row.madeOf_cons, Row.madeOf_nil, and_true, Span.text_bare, Span.text_inRole, padStart,
    madeOf_append]
  exact ⟨⟨madeOf_blanks hown _, madeOf_decimal hown _⟩, madeOf_own hown (by decide),
    madeOf_own hown (by decide)⟩

theorem madeOf_markerRow (width : Nat) {hs : List Highlight}
    (hnotes : ∀ h ∈ hs, ∀ note ∈ h.note, MadeOf P note) : (markerRow width hs).MadeOf P := by
  have hfront : (Row.ofSpans [.bare (blanks width ++ " "), .inRole .gutter "|", .bare " "]).MadeOf P := by
    simp only [Row.madeOf_cons, Row.madeOf_nil, and_true, Span.text_bare, Span.text_inRole,
      madeOf_append]
    exact ⟨⟨madeOf_blanks hown _, madeOf_own hown (by decide)⟩, madeOf_own hown (by decide),
      madeOf_own hown (by decide)⟩
  exact List.forall_mem_append.mpr ⟨hfront, madeOf_cellSpans (madeOf_markerCells hown hnotes)⟩

theorem madeOf_rows {e : Excerpt} (htexts : ∀ s ∈ e.texts, MadeOf P s) :
    ∀ row ∈ e.rows, row.MadeOf P := by
  have hfile : ∀ file ∈ e.file, MadeOf P file :=
    fun file hf => htexts file (by simp [texts, Option.mem_def.mp hf])
  have hline : ∀ l ∈ e.lines, MadeOf P l.text := by
    intro l hl
    exact htexts l.text (by simp only [texts, List.mem_append, List.mem_map]; exact .inl (.inr ⟨l, hl, rfl⟩))
  have hnotes : ∀ n, ∀ h ∈ e.highlightsOn n, ∀ note ∈ h.note, MadeOf P note := by
    intro n h hh note hnote
    refine htexts note ?_
    simp only [texts, List.mem_append, List.mem_filterMap]
    exact .inr ⟨h, List.mem_of_mem_filter hh, hnote⟩
  unfold rows
  rw [List.forall_mem_append]
  refine ⟨?_, ?_⟩
  · cases hf : e.file with
    | none => simp
    | some file => simpa using madeOf_placeRow hown (hfile file hf)
  · intro row hrow
    obtain ⟨l, hl, hrow⟩ := List.mem_flatMap.mp hrow
    unfold rowsOf at hrow
    rcases List.mem_cons.mp hrow with rfl | hrow
    · exact madeOf_lineRow hown _ (hline l hl)
    · split at hrow
      · cases hrow
      · rw [List.mem_singleton.mp hrow]
        exact madeOf_markerRow hown _ (hnotes l.number)

end Excerpt

theorem madeOf_siteRow {s : Site} (hfile : MadeOf P s.file) : s.row.MadeOf P := by
  simp only [Site.row, Row.madeOf_cons, Row.madeOf_nil, and_true, Span.text_bare, Span.text_inRole,
    madeOf_append]
  exact ⟨madeOf_own hown (by decide), madeOf_own hown (by decide), madeOf_own hown (by decide),
    madeOf_position hown hfile _ _⟩

theorem madeOf_header {f : Finding} (hidentifier : MadeOf P f.identifier) (htitle : MadeOf P f.title) :
    f.header.MadeOf P := by
  have hword : MadeOf P f.level.word := madeOf_own hown (by cases f.level <;> decide)
  simp only [Finding.header, Row.madeOf_cons, Row.madeOf_nil, and_true, Span.text_bare,
    Span.text_inRole]
  exact ⟨hword, madeOf_own hown (by decide), hidentifier, madeOf_own hown (by decide), htitle⟩

theorem madeOf_causeDivider : causeDivider.MadeOf P := by
  simp only [causeDivider, Row.madeOf_cons, Row.madeOf_nil, and_true]
  exact madeOf_own hown (by decide)

theorem madeOf_finding_rows {f : Finding} (htexts : ∀ s ∈ f.texts, MadeOf P s) :
    ∀ row ∈ f.rows, row.MadeOf P := by
  have hidentifier : MadeOf P f.identifier := htexts _ (by simp [Finding.texts])
  have htitle : MadeOf P f.title := htexts _ (by simp [Finding.texts])
  have hmessage : ∀ s ∈ f.message, MadeOf P s := fun s hs => htexts s (by simp_all [Finding.texts])
  have hhelp : ∀ s ∈ f.help, MadeOf P s := fun s hs => htexts s (by simp_all [Finding.texts])
  have hurl : ∀ s ∈ f.docUrl, MadeOf P s := fun s hs => htexts s (by simp_all [Finding.texts])
  have hsite : ∀ s ∈ f.site, MadeOf P s.file := fun s hs => htexts s.file (by simp_all [Finding.texts])
  have hexcerpts : ∀ e ∈ f.excerpts, ∀ s ∈ e.texts, MadeOf P s := by
    intro e he s hs
    exact htexts s (List.mem_append_right _ (List.mem_flatMap.mpr ⟨e, he, hs⟩))
  unfold Finding.rows
  simp only [List.forall_mem_append, List.forall_mem_cons]
  refine ⟨⟨⟨⟨⟨madeOf_header hown hidentifier htitle, ?_⟩, ?_⟩, ?_⟩, ?_⟩, ?_⟩
  · cases hs : f.site with
    | none => simp
    | some site => simpa using madeOf_siteRow hown (hsite site hs)
  · refine madeOf_rowOf fun s hs => ?_
    simpa using hmessage s hs
  · intro row hrow
    obtain ⟨e, he, hrow⟩ := List.mem_flatMap.mp hrow
    exact Excerpt.madeOf_rows hown (hexcerpts e he) row hrow
  · refine madeOf_rowOf fun s hs => ?_
    simp only [Row.madeOf_cons, Row.madeOf_nil, and_true, Span.text_bare, Span.text_inRole,
      madeOf_append]
    exact ⟨madeOf_own hown (by decide), madeOf_own hown (by decide), hhelp s hs⟩
  · refine madeOf_rowOf fun s hs => ?_
    simp only [Row.madeOf_cons, Row.madeOf_nil, and_true, Span.text_bare, Span.text_inRole]
    exact ⟨madeOf_own hown (by decide), madeOf_own hown (by decide), hurl s hs⟩

/-- What the rows of a report show is made of what the renderer writes by itself and of what the
texts of the report and its causes are made of. -/
theorem madeOf_report_rows {r : Report} (htexts : ∀ s ∈ r.texts, MadeOf P s) :
    ∀ row ∈ r.rows, row.MadeOf P := by
  induction r with
  | root f =>
    have hf : ∀ s ∈ f.texts, MadeOf P s := by simpa [Report.texts] using htexts
    rw [Report.rows_root]
    exact madeOf_finding_rows hown hf
  | wrapping f cause ih =>
    simp only [Report.texts, Report.chain_wrapping, List.flatMap_cons, List.forall_mem_append] at htexts
    rw [Report.rows_wrapping, List.forall_mem_append, List.forall_mem_cons]
    exact ⟨madeOf_finding_rows hown htexts.1, madeOf_causeDivider hown, ih htexts.2⟩

theorem madeOf_summaryRow (c : Collection) : c.summaryRow.MadeOf P := by
  have hcounted : ∀ l : Level, MadeOf P (l.counted (c.count l)) := by
    intro l
    have hnoun : MadeOf P l.noun := madeOf_own hown (by cases l <;> decide)
    simp only [Level.counted, madeOf_append]
    refine ⟨⟨⟨madeOf_decimal hown _, madeOf_own hown (by decide)⟩, hnoun⟩, ?_⟩
    split <;> exact madeOf_own hown (by decide)
  have hcounts : ∀ s ∈ c.counts, MadeOf P s.text := by
    intro s hs
    obtain ⟨l, -, rfl⟩ := List.mem_map.mp hs
    exact hcounted l
  unfold Collection.summaryRow
  split
  · simp only [Row.madeOf_cons, Row.madeOf_nil, and_true, Span.text_inRole]
    exact madeOf_own hown (by decide)
  · rw [Row.madeOf_cons]
    refine ⟨madeOf_own hown (by decide), fun s hs => ?_⟩
    rcases mem_of_mem_intersperse hs with rfl | hs
    · exact madeOf_own hown (by decide)
    · exact hcounts s hs

end Own

end Diagnostics
