import Diagnostics.Proofs.Render.ColourErasure

/-! # Colour that is opened is closed

Read from left to right, a row in ANSI style is a sequence of pieces: text without colour, and text
behind the codes that open its colour and in front of one reset. Every span makes at most one such
piece, whatever its text, so nothing is opened inside a piece or left open at the end of a row. A
marker row keeps its last reset, since it ends in a coloured piece and nothing is trimmed off it; its
pieces are the segments into which the roles of its cells cut it.
-/
namespace Diagnostics

/-- Text without colour, or text between the codes that open its colour and the reset. -/
inductive Piece where
  | bare (chars : List Char)
  | coloured (codes : List Nat) (chars : List Char)
  deriving DecidableEq, Repr

namespace Piece

def written : Piece → List Char
  | bare chars => chars
  | coloured codes chars =>
    codes.flatMap (fun code => (Style.control code).toList) ++ chars ++ (Style.control 0).toList

example : (coloured [1, 31] ['a']).written = "\x1b[1m\x1b[31ma\x1b[0m".toList := by cbv

/-- The codes that may open a colour: six colours, bold and underlined. -/
def openings : List Nat := [31, 32, 33, 34, 35, 36, 1, 4]

/-- No control sequence stands in a piece but its own, and a coloured piece opens a colour and shows
something in it. -/
def Tidy : Piece → Prop
  | bare chars => escape ∉ chars
  | coloured codes chars =>
    codes ≠ [] ∧ (∀ code ∈ codes, code ∈ openings) ∧ chars ≠ [] ∧ escape ∉ chars

end Piece

/-- From left to right, a row consists of some pieces. -/
structure ReadsAs (row : String) (pieces : List Piece) : Prop where
  tidy : ∀ p ∈ pieces, p.Tidy
  written : row.toList = pieces.flatMap Piece.written

theorem readsAs_empty : ReadsAs "" [] := ⟨List.forall_mem_nil _, rfl⟩

theorem ReadsAs.append {s t : String} {ps qs : List Piece} (hs : ReadsAs s ps) (ht : ReadsAs t qs) :
    ReadsAs (s ++ t) (ps ++ qs) where
  tidy := List.forall_mem_append.mpr ⟨hs.tidy, ht.tidy⟩
  written := by rw [String.toList_append, hs.written, ht.written, List.flatMap_append]

theorem readsAs_bare {chars : List Char} (h : escape ∉ chars) :
    ReadsAs (String.ofList chars) [.bare chars] where
  tidy := List.forall_mem_singleton.mpr h
  written := by simp [Piece.written]

/-- The codes of a paint in the order in which they are written. -/
def Paint.codes : Paint → List Nat
  | .none => []
  | .emphasis => [Style.bold]
  | .role r => (Style.palette r).reverse

theorem Paint.codes_ne_nil {p : Paint} (h : p ≠ .none) : p.codes ≠ [] := by
  cases p with
  | none => exact absurd rfl h
  | emphasis => exact List.cons_ne_nil _ _
  | role r => cases r <;> decide

theorem Paint.mem_openings (p : Paint) : ∀ code ∈ p.codes, code ∈ Piece.openings := by
  cases p with
  | none => decide
  | emphasis => decide
  | role r => cases r <;> decide

theorem toList_foldl_control (codes : List Nat) (text : String) :
    (codes.foldl (fun t code => Style.control code ++ t) text).toList =
      codes.reverse.flatMap (fun code => (Style.control code).toList) ++ text.toList := by
  induction codes generalizing text with
  | nil => rfl
  | cons code codes ih => simp [ih]

/-- Text that is not empty is written in its paint as one piece. -/
theorem readsAs_controlled {p : Paint} (hp : p ≠ .none) {codes : List Nat}
    (hcodes : codes.reverse = p.codes) {text : String} (hne : text ≠ "") (h : escape ∉ text.toList) :
    ReadsAs (Style.controlled codes text) [.coloured p.codes text.toList] where
  tidy := by
    have hchars : text.toList ≠ [] := by simpa using hne
    exact List.forall_mem_singleton.mpr ⟨p.codes_ne_nil hp, p.mem_openings, hchars, h⟩
  written := by
    rw [Style.controlled, if_neg hne, String.toList_append, toList_foldl_control, hcodes]
    simp [Piece.written]

/-- The pieces of a span, at most one. -/
def Span.pieces (s : Span) : List Piece :=
  match s.paint with
  | .none => [.bare s.text.toList]
  | p => if s.text = "" then [] else [.coloured p.codes s.text.toList]

theorem readsAs_span {s : Span} (h : escape ∉ s.text.toList) :
    ReadsAs (Style.ansi.span s) s.pieces := by
  obtain ⟨paint, text⟩ := s
  have hcontrolled : ∀ (p : Paint) (codes : List Nat), p ≠ .none → codes.reverse = p.codes →
      ReadsAs (Style.controlled codes text)
        (if text = "" then [] else [.coloured p.codes text.toList]) := by
    intro p codes hp hcodes
    split
    · next hempty =>
      rw [hempty, Style.controlled_empty]
      exact readsAs_empty
    · next hne => exact readsAs_controlled hp hcodes hne h
  cases paint with
  | none =>
    have hbare := readsAs_bare h
    rwa [String.ofList_toList] at hbare
  | emphasis => exact hcontrolled .emphasis _ (by simp) rfl
  | role r => exact hcontrolled (.role r) _ (by simp) rfl

theorem Style.spans_append (style : Style) (ss ts : List Span) :
    style.spans (ss ++ ts) = style.spans ss ++ style.spans ts := by
  apply String.toList_inj.mp
  simp

theorem readsAs_spans {ss : List Span} (h : ∀ s ∈ ss, MadeOf (· ≠ escape) s.text) :
    ReadsAs (Style.ansi.spans ss) (ss.flatMap Span.pieces) := by
  induction ss with
  | nil => exact readsAs_empty
  | cons s ss ih =>
    obtain ⟨hs, hss⟩ := List.forall_mem_cons.mp h
    have hhead : Style.ansi.spans [s] = Style.ansi.span s := by simp [Style.spans]
    rw [← List.singleton_append, Style.spans_append, hhead]
    exact (readsAs_span (madeOf_ne_escape_iff.mp hs)).append (ih hss)

/-! ## Marker rows -/

/-- A segment of cells as a piece in the colour of its role. -/
def Segment.piece (s : Segment) : Piece :=
  match s.role with
  | none => .bare s.chars
  | some r => .coloured (Paint.role r).codes s.chars

theorem readsAs_segment {s : Segment} (hne : s.chars ≠ []) (h : escape ∉ s.chars) :
    ReadsAs (s.written .ansi) [s.piece] := by
  obtain ⟨role, chars⟩ := s
  cases role with
  | none => exact readsAs_bare h
  | some r =>
    have htext : String.ofList chars ≠ "" := by simpa using hne
    have hcoloured := readsAs_controlled (p := .role r) (by simp) rfl htext (by simpa using h)
    rwa [String.toList_ofList] at hcoloured

theorem readsAs_segments {segments : List Segment} (hne : ∀ s ∈ segments, s.chars ≠ [])
    (h : ∀ s ∈ segments, escape ∉ s.chars) :
    ReadsAs (String.join (segments.map (Segment.written .ansi))) (segments.map Segment.piece) := by
  induction segments with
  | nil => exact readsAs_empty
  | cons s segments ih =>
    obtain ⟨hs, hrest⟩ := List.forall_mem_cons.mp h
    obtain ⟨hsne, hrestne⟩ := List.forall_mem_cons.mp hne
    rw [List.map_cons, String.join_cons]
    exact (readsAs_segment hsne hs).append (ih hrestne hrest)

/-- What stands in front of the cells of a marker row. -/
def barPieces (width : Nat) : List Piece :=
  [.bare (blanks width ++ " ").toList, .coloured [34] ['|'], .bare [' ']]

theorem escape_notMem_segments {cells : List Cell} {segments : List Segment}
    (hsegments : MaximalSegments cells segments)
    (h : ∀ s ∈ cellSpans cells, MadeOf (· ≠ escape) s.text) :
    ∀ s ∈ segments, escape ∉ s.chars := by
  intro s hs hmem
  -- A character of a segment is one of a cell, and so it is shown by some span.
  have hcell : (⟨escape, s.role⟩ : Cell) ∈ cells := by
    rw [← hsegments.cells_eq]
    exact List.mem_flatMap.mpr ⟨s, hs, List.mem_map.mpr ⟨escape, hmem, rfl⟩⟩
  have hshown : escape ∈ (Style.plain.spans (cellSpans cells)).toList := by
    rw [plain_spans_cellSpans, String.toList_ofList]
    exact List.mem_map.mpr ⟨_, hcell, rfl⟩
  rw [toList_plain_spans] at hshown
  obtain ⟨span, hspan, hc⟩ := List.mem_flatMap.mp hshown
  exact h span hspan escape hc rfl

/-- A row is the marker row of some highlights and reads as its bar and then as the segments of its
cells. Nothing is trimmed off it, and no two neighbouring segments have the same role. -/
structure ReadsAsMarkers (row : Row) (width : Nat) (hs : List Highlight) (segments : List Segment) :
    Prop where
  row_eq : row = Excerpt.markerRow width hs
  untrimmed : Style.ansi.row row = Style.ansi.spans row.spans
  cells_eq : segments.flatMap Segment.cells = markerCells hs
  ne_nil : ∀ s ∈ segments, s.chars ≠ []
  role_ne : segments.IsChain fun a b => a.role ≠ b.role
  reads : ReadsAs (Style.ansi.row row) (barPieces width ++ segments.map Segment.piece)

theorem readsAsMarkers (width : Nat) {hs : List Highlight} (hne : hs ≠ [])
    (h : (Excerpt.markerRow width hs).MadeOf (· ≠ escape)) :
    ∃ segments, ReadsAsMarkers (Excerpt.markerRow width hs) width hs segments := by
  obtain ⟨segments, hsegments, hwritten⟩ := exists_maximalSegments (markerCells hs)
  obtain ⟨hbar, hcells⟩ := List.forall_mem_append.mp h
  have huntrimmed := ansi_row_markerRow width hne
  refine ⟨segments, rfl, huntrimmed, hsegments.cells_eq, hsegments.ne_nil, hsegments.role_ne, ?_⟩
  -- The spans of the cells are written just as the segments, so the row is its bar and then these.
  rw [huntrimmed, Excerpt.markerRow, Style.spans_append, hwritten]
  have hfront : ReadsAs _ (barPieces width) := readsAs_spans hbar
  exact hfront.append
    (readsAs_segments hsegments.ne_nil (escape_notMem_segments hsegments hcells))

/-! ## Reports and summaries -/

/-- A row that is not trimmed reads as its spans. -/
theorem readsAs_row {row : Row} (htrimmed : row.trimmed ≠ true) (h : row.MadeOf (· ≠ escape)) :
    ReadsAs (Style.ansi.row row) (row.spans.flatMap Span.pieces) := by
  unfold Style.row
  rw [if_neg htrimmed]
  exact readsAs_spans h

theorem madeOf_rows_of_no_escape {r : Report} (h : ∀ s ∈ r.texts, escape ∉ s.toList) :
    ∀ row ∈ r.rows, row.MadeOf (· ≠ escape) :=
  madeOf_report_rows isOwn_ne_escape fun s hs => madeOf_ne_escape_iff.mpr (h s hs)

theorem Collection.summaryRow_not_trimmed (c : Collection) : c.summaryRow.trimmed ≠ true := by
  unfold summaryRow
  split <;> exact Bool.false_ne_true

/-- Where no text of a report holds an escape, each of its rows in ANSI style is a sequence of bare
text and of coloured pieces, which open at least one colour, show something and end in one reset; so
is the summary of every collection. Nothing is trimmed off a marker row, and behind its bar it
consists of the segments of its cells, of which no two neighbours have the same role. -/
theorem colour_closed :
    (∀ r : Report, (∀ s ∈ r.texts, escape ∉ s.toList) →
      (∀ line ∈ r.renderLines .ansi, ∃ pieces, ReadsAs line pieces) ∧
      ∀ row ∈ r.rows, r.HasMarkerRow row →
        ∃ width hs segments, ReadsAsMarkers row width hs segments) ∧
    ∀ c : Collection, ∃ pieces, ReadsAs (c.summary .ansi) pieces := by
  refine ⟨?_, ?_⟩
  · intro r htexts
    have hmade := madeOf_rows_of_no_escape htexts
    have hmarkers : ∀ row ∈ r.rows, r.HasMarkerRow row →
        ∃ width hs segments, ReadsAsMarkers row width hs segments := by
      rintro row hrow ⟨f, -, e, -, l, -, hne, rfl⟩
      exact ⟨_, _, readsAsMarkers e.gutterWidth hne (hmade _ hrow)⟩
    refine ⟨?_, hmarkers⟩
    intro line hline
    obtain ⟨row, hrow, rfl⟩ := List.mem_map.mp hline
    -- Only marker rows are trimmed, and these have been dealt with.
    by_cases htrimmed : row.trimmed = true
    · obtain ⟨width, hs, segments, hreads⟩ :=
        hmarkers row hrow ((Report.hasMarkerRow_iff hrow).mpr htrimmed)
      exact ⟨_, hreads.reads⟩
    · exact ⟨_, readsAs_row htrimmed (hmade row hrow)⟩
  · intro c
    exact ⟨_, readsAs_row c.summaryRow_not_trimmed (madeOf_summaryRow isOwn_ne_escape c)⟩

/-- A report on one line with a highlight of an error into which one of a warning is drawn. -/
def Report.withNeighbours : Report :=
  .root ⟨"E1", "clash", .error, none, some "rename one", none, none,
    [⟨[⟨7, "let xy"⟩], [⟨7, 0, 5, none, .error⟩, ⟨7, 3, 6, some "here  ", .warning⟩], none⟩]⟩

theorem colour_closed_neighbours :
    (∀ s ∈ Report.withNeighbours.texts, escape ∉ s.toList) ∧
      (∀ line ∈ Report.withNeighbours.renderLines .ansi, ∃ pieces, ReadsAs line pieces) ∧
      ∃ row ∈ Report.withNeighbours.rows, Report.withNeighbours.HasMarkerRow row ∧
        Style.ansi.row row =
          "  \x1b[34m|\x1b[0m \x1b[1m\x1b[31m^^^\x1b[0m\x1b[1m\x1b[33m~~~ here  \x1b[0m" ∧
        ∃ width hs segments, ReadsAsMarkers row width hs segments := by
  let hs : List Highlight := [⟨7, 0, 5, none, .error⟩, ⟨7, 3, 6, some "here  ", .warning⟩]
  have htexts : ∀ s ∈ Report.withNeighbours.texts, escape ∉ s.toList := by decide
  obtain ⟨hlines, hmarkers⟩ := colour_closed.1 Report.withNeighbours htexts
  have hrow : Excerpt.markerRow 1 hs ∈ Report.withNeighbours.rows :=
    List.mem_of_getElem? (i := 2) rfl
  have hmarker : Report.withNeighbours.HasMarkerRow (Excerpt.markerRow 1 hs) :=
    ⟨_, List.mem_cons_self, _, List.mem_cons_self, _, List.mem_cons_self, by decide, rfl⟩
  refine ⟨htexts, hlines, Excerpt.markerRow 1 hs, hrow, hmarker, ?_, hmarkers _ hrow hmarker⟩
  have horder : drawingOrder hs = hs := List.mergeSort_of_pairwise (by decide)
  rw [Excerpt.markerRow, markerCells, horder]
  decide

end Diagnostics
