import Diagnostics.Proofs.Layout.MarkerRow
import Diagnostics.Proofs.Text.Trimming

/-! # The rows of an excerpt in plain style

Plain style writes the texts of the spans and nothing else, so each kind of row is a list of
characters of one shape: blanks or a number in the gutter, an arrow or a bar, and what is shown
behind it. A laid out excerpt has these rows in the order of its lines.
-/
namespace Diagnostics

theorem toList_blanks (n : Nat) : (blanks n).toList = List.replicate n ' ' :=
  String.toList_ofList

theorem toList_padStart (width : Nat) (s : String) :
    (padStart width s).toList = List.replicate (width - s.length) ' ' ++ s.toList := by
  rw [padStart, String.toList_append, toList_blanks]

theorem plain_span (s : Span) : Style.plain.span s = s.text := by
  unfold Style.span
  split <;> rfl

theorem toList_plain_spans (ss : List Span) :
    (Style.plain.spans ss).toList = ss.flatMap fun s => s.text.toList := by
  simp only [Style.toList_spans, plain_span]

theorem plain_spans_cellSpans (cells : List Cell) :
    Style.plain.spans (cellSpans cells) = String.ofList (cells.map Cell.char) := by
  obtain ⟨segments, hsegments, hwritten⟩ := exists_maximalSegments cells
  rw [hwritten, join_written_plain hsegments]

namespace Excerpt

theorem toList_plain_placeRow (e : Excerpt) (file : String) :
    (Style.plain.row (e.placeRow file)).toList =
      List.replicate e.gutterWidth ' ' ++ '-' :: '-' :: '>' :: ' ' :: (e.place file).toList := by
  unfold Style.row placeRow Row.ofSpans
  rw [if_neg Bool.false_ne_true, toList_plain_spans]
  simp [Span.bare, Span.inRole, toList_blanks]

/-- A line without text has no blank behind its bar. -/
theorem toList_plain_lineRow (width : Nat) (l : SourceLine) :
    (Style.plain.row (lineRow width l)).toList =
      List.replicate (width - (Text.decimal l.number).length) ' ' ++
        (Text.decimal l.number).toList ++
        ' ' :: '|' :: if l.text = "" then [] else ' ' :: l.text.toList := by
  unfold Style.row lineRow Row.ofSpans
  rw [if_neg Bool.false_ne_true, toList_plain_spans]
  by_cases htext : l.text = "" <;> simp [Span.bare, Span.inRole, toList_padStart, htext]

theorem toList_plain_markerRow (width : Nat) (hs : List Highlight) :
    (Style.plain.row (markerRow width hs)).toList =
      Text.dropEndWhile Text.isBlank
        (List.replicate width ' ' ++ ' ' :: '|' :: ' ' :: (markerCells hs).map Cell.char) := by
  rw [row_markerRow, plain_spans_cellSpans, Text.trimEnd, String.toList_ofList]
  simp [toList_blanks]

/-- Trimming does not reach the bar. -/
theorem gutter_prefix_markerRow (width : Nat) (hs : List Highlight) :
    List.replicate width ' ' ++ [' ', '|'] <+: (Style.plain.row (markerRow width hs)).toList := by
  have hbar : (List.replicate width ' ' ++ [' ', '|']).getLast? = some '|' := by
    rw [List.getLast?_append]
    rfl
  have hsplit : List.replicate width ' ' ++ ' ' :: '|' :: ' ' :: (markerCells hs).map Cell.char =
      (List.replicate width ' ' ++ [' ', '|']) ++ ' ' :: (markerCells hs).map Cell.char := by
    simp
  rw [toList_plain_markerRow, hsplit, Text.dropEndWhile_append_of_getLast? hbar rfl]
  exact List.prefix_append _ _

theorem rows_eq (e : Excerpt) :
    e.rows = e.file.toList.map e.placeRow ++ e.lines.flatMap e.rowsOf := by
  unfold rows
  cases e.file <;> rfl

theorem map_rowsOf (e : Excerpt) (style : Style) (l : SourceLine) :
    (e.rowsOf l).map style.row = style.row (lineRow e.gutterWidth l) ::
      if e.highlightsOn l.number = [] then []
      else [style.row (markerRow e.gutterWidth (e.highlightsOn l.number))] := by
  unfold rowsOf
  by_cases hnone : e.highlightsOn l.number = [] <;> simp [hnone]

/-- The rows of a laid out excerpt: its place if a file is known, and each line with the marker
row right below it if the line has highlights. -/
theorem layout_eq (e : Excerpt) (style : Style) :
    e.layout style = (e.file.toList.map fun file => style.row (e.placeRow file)) ++
      e.lines.flatMap fun l => style.row (lineRow e.gutterWidth l) ::
        if e.highlightsOn l.number = [] then []
        else [style.row (markerRow e.gutterWidth (e.highlightsOn l.number))] := by
  rw [layout, rows_eq, List.map_append, List.map_map, List.map_flatMap]
  simp only [map_rowsOf]
  rfl

/-- Right below a line with highlights stands its marker row. -/
theorem rows_infix_layout (e : Excerpt) (style : Style) {l : SourceLine} (hl : l ∈ e.lines)
    (hne : e.highlightsOn l.number ≠ []) :
    [style.row (lineRow e.gutterWidth l),
      style.row (markerRow e.gutterWidth (e.highlightsOn l.number))] <:+: e.layout style := by
  obtain ⟨above, below, hlines⟩ := List.append_of_mem hl
  have hrows := e.map_rowsOf style l
  rw [if_neg hne] at hrows
  rw [← hrows, layout, rows_eq, hlines, List.flatMap_append, List.flatMap_cons]
  simp only [List.map_append]
  exact (List.prefix_append _ _).isInfix.trans
    ((List.suffix_append _ _).trans (List.suffix_append _ _)).isInfix

end Excerpt

end Diagnostics
