import Diagnostics.Proofs.Excerpt.Runs
import Diagnostics.Proofs.Layout.Reordering

/-! # What one more highlight changes

The rows of a line hang on the gutter and on the highlights of that line alone. So a highlight that
is added to an excerpt gives each copy of its line one and the same marker row, in the place of the
one that was there if there was one. Besides that it may change the place, which is about the
highlights of the whole excerpt. All other rows stay as they are, in their order.
-/
namespace Diagnostics

namespace Excerpt
variable {e : Excerpt} {style : Style}

/-- The rows of some lines of an excerpt, before and after all lines of one number were given a
marker row. -/
inductive Remarked (e : Excerpt) (style : Style) (number : Int) (marker : String) :
    List SourceLine → List String → List String → Prop where
  | nil : Remarked e style number marker [] [] []
  /-- Any other line keeps its row, and the marker row below it if it has one. -/
  | other {l : SourceLine} {lines : List SourceLine} {rows rows' : List String}
      (hl : l.number ≠ number) (hrest : Remarked e style number marker lines rows rows') :
      Remarked e style number marker (l :: lines) ((e.rowsOf l).map style.row ++ rows)
        ((e.rowsOf l).map style.row ++ rows')
  | inserted {l : SourceLine} {lines : List SourceLine} {rows rows' : List String}
      (hl : l.number = number) (hnone : e.highlightsOn number = [])
      (hrest : Remarked e style number marker lines rows rows') :
      Remarked e style number marker (l :: lines) (style.row (lineRow e.gutterWidth l) :: rows)
        (style.row (lineRow e.gutterWidth l) :: marker :: rows')
  | replaced {l : SourceLine} {lines : List SourceLine} {old : String} {rows rows' : List String}
      (hl : l.number = number) (hsome : e.highlightsOn number ≠ [])
      (hrest : Remarked e style number marker lines rows rows') :
      Remarked e style number marker (l :: lines)
        (style.row (lineRow e.gutterWidth l) :: old :: rows)
        (style.row (lineRow e.gutterWidth l) :: marker :: rows')

theorem Remarked.length_eq {number : Int} {marker : String} {lines : List SourceLine}
    {rows rows' : List String} (h : Remarked e style number marker lines rows rows') :
    rows'.length = rows.length +
      if e.highlightsOn number = [] then lines.countP fun l => l.number = number else 0 := by
  induction h with
  | nil => simp
  | other hl _ ih =>
    rw [List.length_append, ih, List.length_append, List.countP_cons_of_neg (by simpa using hl)]
    omega
  | inserted hl hnone _ ih =>
    rw [if_pos hnone] at ih ⊢
    rw [List.countP_cons_of_pos (by simpa using hl)]
    simp only [List.length_cons, ih]
    omega
  | replaced hl hsome _ ih =>
    rw [if_neg hsome] at ih ⊢
    simp only [List.length_cons, ih]

/-- The excerpt with some more highlights, whether they fit or not. -/
def adding (e : Excerpt) (hs : List Highlight) : Excerpt :=
  { e with highlights := e.highlights ++ hs }

@[simp] theorem gutterWidth_adding (e : Excerpt) (hs : List Highlight) :
    (e.adding hs).gutterWidth = e.gutterWidth := rfl

@[simp] theorem highlightsOn_adding (e : Excerpt) (hs : List Highlight) (number : Int) :
    (e.adding hs).highlightsOn number =
      e.highlightsOn number ++ hs.filter fun h => h.line = number :=
  List.filter_append _ _

theorem rowsOf_adding_of_ne {h : Highlight} {l : SourceLine} (hl : l.number ≠ h.line) :
    (e.adding [h]).rowsOf l = e.rowsOf l := by
  have hon : (e.adding [h]).highlightsOn l.number = e.highlightsOn l.number := by
    rw [highlightsOn_adding, List.filter_cons_of_neg (by simpa using hl.symm), List.filter_nil,
      List.append_nil]
  unfold rowsOf
  rw [hon, gutterWidth_adding]

theorem map_rowsOf_adding {h : Highlight} {l : SourceLine} (hl : l.number = h.line) :
    ((e.adding [h]).rowsOf l).map style.row = [style.row (lineRow e.gutterWidth l),
      style.row (markerRow e.gutterWidth (e.highlightsOn h.line ++ [h]))] := by
  have hon : (e.adding [h]).highlightsOn l.number = e.highlightsOn h.line ++ [h] := by
    rw [hl, highlightsOn_adding, List.filter_cons_of_pos (by simp), List.filter_nil]
  rw [map_rowsOf, hon, if_neg (by simp), gutterWidth_adding]

theorem remarked_adding (e : Excerpt) (h : Highlight) (style : Style) (lines : List SourceLine) :
    Remarked e style h.line (style.row (markerRow e.gutterWidth (e.highlightsOn h.line ++ [h])))
      lines (lines.flatMap fun l => (e.rowsOf l).map style.row)
      (lines.flatMap fun l => ((e.adding [h]).rowsOf l).map style.row) := by
  induction lines with
  | nil => exact .nil
  | cons l lines ih =>
    rw [List.flatMap_cons, List.flatMap_cons]
    by_cases hl : l.number = h.line
    · rw [map_rowsOf_adding hl, map_rowsOf, hl]
      by_cases hnone : e.highlightsOn h.line = []
      · rw [if_pos hnone]
        exact .inserted hl hnone ih
      · rw [if_neg hnone]
        exact .replaced hl hnone ih
    · rw [rowsOf_adding_of_ne hl]
      exact .other hl ih

def placeRows (e : Excerpt) (style : Style) : List String :=
  e.file.toList.map fun file => style.row (e.placeRow file)

theorem layout_eq_placeRows_append (e : Excerpt) (style : Style) :
    e.layout style = e.placeRows style ++ e.lines.flatMap fun l => (e.rowsOf l).map style.row := by
  rw [layout_eq, placeRows]
  simp only [map_rowsOf]

theorem placeRows_adding {hs : List Highlight} (h : 2 ≤ e.highlights.length) :
    (e.adding hs).placeRows style = e.placeRows style := by
  -- Only a single highlight has a say in the place, and there are several before and after.
  have hplace : (e.adding hs).place = e.place := by
    funext file
    have hlength : (e.adding hs).highlights.length = e.highlights.length + hs.length :=
      List.length_append
    rw [place_of_length_ne (by omega), place_of_length_ne (by omega)]
  have hrow : (e.adding hs).placeRow = e.placeRow := by
    funext file
    rw [placeRow, placeRow, hplace, gutterWidth_adding]
  rw [placeRows, placeRows, hrow]
  rfl

end Excerpt

/-- A highlight that fits is added, and the layout changes below the copies of its line alone: each
gets one and the same marker row, that of all highlights on the line with the new one behind them,
in the place of the marker row that it had or else as a further row. The row with the place may
change if there was at most one highlight. The gutter, the rows of the lines and the marker rows of
all other lines stay as they are, in their order. -/
theorem layout_of_added_highlight {e : Excerpt} (he : e.Sound) {h : Highlight}
    (hfits : h.Fits e.lines) :
    ∃ e', e.withHighlights [h] = .ok e' ∧ e'.lines = e.lines ∧ e'.gutterWidth = e.gutterWidth ∧
      ∀ style, ∃ rows rows',
        e.layout style = e.placeRows style ++ rows ∧
        e'.layout style = e'.placeRows style ++ rows' ∧
        (e'.placeRows style).length = (e.placeRows style).length ∧
        (2 ≤ e.highlights.length → e'.placeRows style = e.placeRows style) ∧
        Excerpt.Remarked e style h.line
          (style.row (Excerpt.markerRow e.gutterWidth (e.highlightsOn h.line ++ [h])))
          e.lines rows rows' ∧
        rows'.length = rows.length + if e.highlightsOn h.line = [] then
          e.lines.countP fun l => l.number = h.line else 0 := by
  have hadded : e.withHighlights [h] = .ok (e.adding [h]) :=
    (Excerpt.withHighlights_eq_ok_iff he).mpr ⟨rfl, List.forall_mem_singleton.mpr hfits⟩
  refine ⟨e.adding [h], hadded, rfl, rfl, ?_⟩
  intro style
  have hremarked := e.remarked_adding h style e.lines
  refine ⟨_, _, e.layout_eq_placeRows_append style, (e.adding [h]).layout_eq_placeRows_append style,
    ?_, Excerpt.placeRows_adding, hremarked, hremarked.length_eq⟩
  rw [Excerpt.placeRows, Excerpt.placeRows, List.length_map, List.length_map]
  rfl

/-- Two copies of a marked line, and between them one that is not marked. -/
def scattered : Excerpt :=
  ⟨[⟨7, "let x"⟩, ⟨12, "in y"⟩, ⟨7, "let"⟩], [⟨7, 0, 3, none, .info⟩], some "a.ml"⟩

example : scattered.layout .plain =
    ["  --> a.ml:7:1", " 7 | let x", "   | ---", "12 | in y", " 7 | let", "   | ---"] := by cbv

example : (scattered.adding [⟨12, 3, 4, none, .error⟩, ⟨7, 2, 3, some "here", .error⟩]).layout .plain =
    ["  --> a.ml", " 7 | let x", "   | --^ here", "12 | in y", "   |    ^", " 7 | let",
      "   | --^ here"] := by cbv

theorem layout_of_added_highlight_scattered :
    scattered.Sound ∧ Highlight.Fits ⟨7, 2, 3, some "here", .error⟩ scattered.lines ∧
    ∃ e', scattered.withHighlights [⟨7, 2, 3, some "here", .error⟩] = .ok e' ∧
      ∃ rows rows', e'.layout .plain = e'.placeRows .plain ++ rows' ∧
        Excerpt.Remarked scattered .plain 7
          (Style.plain.row (Excerpt.markerRow scattered.gutterWidth
            [⟨7, 0, 3, none, .info⟩, ⟨7, 2, 3, some "here", .error⟩])) scattered.lines rows rows' ∧
        rows'.length = rows.length := by
  have hsound : scattered.Sound := by decide
  have hfits : Highlight.Fits ⟨7, 2, 3, some "here", .error⟩ scattered.lines := by decide
  obtain ⟨e', hadded, -, -, hlayout⟩ := layout_of_added_highlight hsound hfits
  obtain ⟨rows, rows', -, hrows', -, -, hremarked, hlength⟩ := hlayout .plain
  exact ⟨hsound, hfits, e', hadded, rows, rows', hrows', hremarked, hlength⟩

end Diagnostics
