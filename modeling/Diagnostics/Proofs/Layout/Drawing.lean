import Diagnostics.Layout.Marker
import Mathlib.Order.Bounds.Defs
import Mathlib.Order.MinMax

/-! # Cells of a marker row as last writes

A highlight writes its glyph on the columns of its run and then, behind one blank, its note. Seen
through `cellAt`, which forgets how far a row of cells reaches, drawing a highlight changes exactly
the columns that the highlight writes. So whatever overlaps, every column ends up with the last
write on it, and the row reaches as far as the greatest column written.
-/
namespace Diagnostics

/-- The cell on a column, blank beyond the end of the row. -/
def cellAt (cells : List Cell) (c : Nat) : Cell := cells[c]?.getD .blank

theorem getElem?_eq_cellAt {cells : List Cell} {c : Nat} (h : c < cells.length) :
    cells[c]? = some (cellAt cells c) := by
  simp [cellAt, h]

theorem cellAt_append_blanks (cells : List Cell) (n c : Nat) :
    cellAt (cells ++ List.replicate n .blank) c = cellAt cells c := by
  unfold cellAt
  by_cases h : c < cells.length
  · rw [List.getElem?_append_left h]
  · rw [List.getElem?_append_right (by omega), List.getElem?_eq_none (by omega : cells.length ≤ c)]
    by_cases hn : c - cells.length < n <;> simp [hn]

def Stroke.cellAt? (s : Stroke) (c : Nat) : Option Cell :=
  if s.column ≤ c then s.cells[c - s.column]? else none

theorem length_draw (cells : List Cell) (s : Stroke) :
    (draw cells s).length = max cells.length (s.column + s.chars.length) := by
  simp only [draw, Stroke.cells, List.length_append, List.length_take, List.length_drop,
    List.length_map, List.length_replicate]
  omega

/-- A stroke covers its own columns and leaves all others alone. -/
theorem cellAt_draw (cells : List Cell) (s : Stroke) (c : Nat) :
    cellAt (draw cells s) c = (s.cellAt? c).getD (cellAt cells c) := by
  have hpad := cellAt_append_blanks cells (s.column - cells.length) c
  have hlen : s.column ≤ (cells ++ List.replicate (s.column - cells.length) Cell.blank).length := by
    simp only [List.length_append, List.length_replicate]
    omega
  rw [← hpad]
  unfold draw
  generalize cells ++ List.replicate (s.column - cells.length) Cell.blank = padded at hlen ⊢
  have hcells : s.cells.length = s.chars.length := by simp [Stroke.cells]
  have htake : (padded.take s.column).length = s.column := by simp [hlen]
  unfold cellAt Stroke.cellAt?
  dsimp only
  rw [List.append_assoc]
  by_cases hc : s.column ≤ c
  · rw [if_pos hc, List.getElem?_append_right (by omega), htake]
    by_cases hs : c - s.column < s.cells.length
    · rw [List.getElem?_append_left hs, List.getElem?_eq_getElem hs]
      rfl
    · rw [List.getElem?_append_right (by omega), List.getElem?_drop,
        List.getElem?_eq_none (by omega : s.cells.length ≤ c - s.column)]
      rw [show s.column + s.chars.length + (c - s.column - s.cells.length) = c by omega]
      rfl
  · rw [if_neg hc, List.getElem?_append_left (by omega), List.getElem?_take_of_lt (by omega)]
    rfl

namespace Highlight

def runStop (h : Highlight) : Int := h.start + max (h.stop - h.start) 1

def noteChars (h : Highlight) : List Char :=
  match h.note with
  | none => []
  | some note => if note = "" then [] else ' ' :: note.toList

/-- The character that a highlight writes on a column, if it writes there. -/
def write? (h : Highlight) (c : Nat) : Option Char :=
  if (c : Int) < h.start then none
  else if (c : Int) < h.runStop then some h.level.glyph
  else h.noteChars[((c : Int) - h.runStop).toNat]?

def cellAt? (h : Highlight) (c : Nat) : Option Cell :=
  (h.write? c).map fun ch => ⟨ch, some h.level.markerRole⟩

def drawStop (h : Highlight) : Nat := h.column + h.width + h.noteChars.length

theorem column_eq {h : Highlight} (hstart : 0 ≤ h.start) : (h.column : Int) = h.start := by
  unfold column
  omega

theorem column_add_width {h : Highlight} (hstart : 0 ≤ h.start) :
    ((h.column + h.width : Nat) : Int) = h.runStop := by
  unfold column width runStop
  omega

theorem isSome_write? {h : Highlight} (hstart : 0 ≤ h.start) (c : Nat) :
    (h.write? c).isSome ↔ h.column ≤ c ∧ c < h.drawStop := by
  have hcolumn := column_eq hstart
  have hstop := column_add_width hstart
  unfold write? drawStop
  by_cases h₁ : (c : Int) < h.start
  · simp only [if_pos h₁, Option.isSome_none, Bool.false_eq_true, false_iff]
    omega
  · by_cases h₂ : (c : Int) < h.runStop
    · simp only [if_neg h₁, if_pos h₂, Option.isSome_some, true_iff]
      omega
    · rw [if_neg h₁, if_neg h₂, Option.isSome_iff_ne_none, ne_eq, List.getElem?_eq_none_iff]
      omega

theorem column_lt_drawStop (h : Highlight) : h.column < h.drawStop := by
  unfold drawStop width
  omega

/-- The glyphs of a highlight. -/
def run (h : Highlight) : Stroke :=
  ⟨h.column, List.replicate h.width h.level.glyph, h.level.markerRole⟩

/-- What a highlight writes behind its glyphs, if anything. -/
def noteStroke (h : Highlight) : Stroke := ⟨h.column + h.width, h.noteChars, h.level.markerRole⟩

theorem strokes_eq (h : Highlight) :
    h.strokes = h.run :: if h.noteChars = [] then [] else [h.noteStroke] := by
  unfold strokes run noteStroke noteChars
  cases h.note with
  | none => rfl
  | some note => by_cases hn : note = "" <;> simp [hn]

theorem mem_strokes {h : Highlight} {s : Stroke} :
    s ∈ h.strokes ↔ s = h.run ∨ h.noteChars ≠ [] ∧ s = h.noteStroke := by
  rw [strokes_eq]
  by_cases hn : h.noteChars = [] <;> simp [hn]

/-- A highlight without a note might as well write an empty one. -/
theorem cellAt_draw_strokes_eq (h : Highlight) (cells : List Cell) (c : Nat) :
    cellAt (h.strokes.foldl draw cells) c = cellAt (draw (draw cells h.run) h.noteStroke) c := by
  rw [strokes_eq]
  by_cases hn : h.noteChars = []
  · rw [if_pos hn, List.foldl_cons, List.foldl_nil, cellAt_draw _ h.noteStroke]
    simp [noteStroke, Stroke.cellAt?, Stroke.cells, hn]
  · rw [if_neg hn, List.foldl_cons, List.foldl_cons, List.foldl_nil]

theorem length_draw_strokes (h : Highlight) (cells : List Cell) :
    (h.strokes.foldl draw cells).length = max cells.length h.drawStop := by
  rw [strokes_eq]
  unfold drawStop
  by_cases hn : h.noteChars = []
  · simp [hn, length_draw, run]
  · rw [if_neg hn, List.foldl_cons, List.foldl_cons, List.foldl_nil, length_draw, length_draw]
    simp only [run, noteStroke, List.length_replicate]
    omega

theorem cellAt?_run {h : Highlight} (hstart : 0 ≤ h.start) (c : Nat) :
    h.run.cellAt? c = if h.start ≤ c ∧ (c : Int) < h.runStop then
      some ⟨h.level.glyph, some h.level.markerRole⟩ else none := by
  have hcolumn := column_eq hstart
  have hstop := column_add_width hstart
  unfold run Stroke.cellAt? Stroke.cells
  dsimp only
  rw [List.map_replicate, List.getElem?_replicate]
  by_cases h₁ : h.column ≤ c
  · rw [if_pos h₁]
    by_cases h₂ : c - h.column < h.width
    · rw [if_pos h₂, if_pos (by omega)]
    · rw [if_neg h₂, if_neg (by omega)]
  · rw [if_neg h₁, if_neg (by omega)]

theorem cellAt?_noteStroke {h : Highlight} (hstart : 0 ≤ h.start) (c : Nat) :
    h.noteStroke.cellAt? c = if (c : Int) < h.runStop then none
      else (h.noteChars[((c : Int) - h.runStop).toNat]?).map
        fun ch => ⟨ch, some h.level.markerRole⟩ := by
  have hstop := column_add_width hstart
  unfold noteStroke Stroke.cellAt? Stroke.cells
  dsimp only
  by_cases h₁ : h.column + h.width ≤ c
  · rw [if_pos h₁, if_neg (by omega), List.getElem?_map]
    rw [show c - (h.column + h.width) = ((c : Int) - h.runStop).toNat by omega]
  · rw [if_neg h₁, if_pos (by omega)]

/-- Drawing a highlight changes the columns on which it writes, and no other. -/
theorem cellAt_draw_strokes {h : Highlight} (hstart : 0 ≤ h.start) (cells : List Cell) (c : Nat) :
    cellAt (h.strokes.foldl draw cells) c = (h.cellAt? c).getD (cellAt cells c) := by
  rw [cellAt_draw_strokes_eq, cellAt_draw, cellAt_draw, cellAt?_run hstart, cellAt?_noteStroke hstart]
  unfold cellAt? write?
  have hwidth : h.start < h.runStop := by
    unfold runStop
    omega
  by_cases h₁ : (c : Int) < h.start
  · rw [if_pos (by omega), if_neg (by omega), if_pos h₁]
    rfl
  · by_cases h₂ : (c : Int) < h.runStop
    · rw [if_pos h₂, if_pos ⟨by omega, h₂⟩, if_neg h₁, if_pos h₂]
      rfl
    · rw [if_neg h₂, if_neg (by omega), if_neg h₁, if_neg h₂]
      rfl

end Highlight

/-- The cell that the last write on a column leaves when some highlights are drawn in turn; it is
blank if none of them writes there. -/
def lastWrite (order : List Highlight) (c : Nat) : Cell :=
  (order.reverse.findSome? fun h => h.cellAt? c).getD .blank

theorem cellAt_draw_all {order : List Highlight} (hstart : ∀ h ∈ order, 0 ≤ h.start)
    (cells : List Cell) (c : Nat) :
    cellAt ((order.flatMap Highlight.strokes).foldl draw cells) c =
      (order.reverse.findSome? fun h => h.cellAt? c).getD (cellAt cells c) := by
  induction order generalizing cells with
  | nil => rfl
  | cons h rest ih =>
    have hh : 0 ≤ h.start := hstart h List.mem_cons_self
    have hrest : ∀ g ∈ rest, 0 ≤ g.start := fun g hg => hstart g (List.mem_cons_of_mem h hg)
    rw [List.flatMap_cons, List.foldl_append, ih hrest, Highlight.cellAt_draw_strokes hh,
      List.reverse_cons, List.findSome?_append]
    cases rest.reverse.findSome? fun g => g.cellAt? c with
    | none => simp [List.findSome?_cons]; cases h.cellAt? c <;> rfl
    | some cell => rfl

theorem lt_length_draw_all (order : List Highlight) (cells : List Cell) (c : Nat) :
    c < ((order.flatMap Highlight.strokes).foldl draw cells).length ↔
      c < cells.length ∨ ∃ h ∈ order, c < h.drawStop := by
  induction order generalizing cells with
  | nil => simp
  | cons h rest ih =>
    rw [List.flatMap_cons, List.foldl_append, ih, Highlight.length_draw_strokes, lt_max_iff]
    simp only [List.mem_cons, exists_eq_or_imp, or_assoc]

/-- Highlights in the order in which they are drawn: by the columns on which they start, and as
they came where these are the same. -/
structure DrawnInOrder (hs order : List Highlight) : Prop where
  perm : order.Perm hs
  sorted : order.Pairwise fun a b => a.start ≤ b.start
  stable : ∀ s : Int, (order.filter fun h => h.start = s) = hs.filter fun h => h.start = s

theorem drawnInOrder_drawingOrder (hs : List Highlight) : DrawnInOrder hs (drawingOrder hs) := by
  have htrans : ∀ a b c : Highlight, decide (a.start ≤ b.start) = true →
      decide (b.start ≤ c.start) = true → decide (a.start ≤ c.start) = true := by
    simp only [decide_eq_true_eq]
    omega
  have htotal : ∀ a b : Highlight, (decide (a.start ≤ b.start) || decide (b.start ≤ a.start)) = true := by
    simp only [Bool.or_eq_true, decide_eq_true_eq]
    omega
  have hperm : (drawingOrder hs).Perm hs := List.mergeSort_perm _ _
  refine ⟨hperm, ?_, ?_⟩
  · exact (List.pairwise_mergeSort htrans htotal hs).imp fun h => of_decide_eq_true h
  · intro s
    -- highlights that start at one column are sorted already, so sorting all keeps them in a row
    have hpair : (hs.filter fun h => h.start = s).Pairwise fun a b => decide (a.start ≤ b.start) = true := by
      refine List.pairwise_of_forall_mem_list ?_
      intro a ha b hb
      simp only [List.mem_filter, decide_eq_true_eq] at ha hb ⊢
      omega
    have hsub := (List.sublist_mergeSort htrans htotal hpair List.filter_sublist).filter
      fun h => decide (h.start = s)
    rw [List.filter_filter] at hsub
    simp only [Bool.and_self] at hsub
    exact (hsub.eq_of_length (hperm.filter _).length_eq.symm).symm

theorem mem_drawingOrder {hs : List Highlight} {h : Highlight} : h ∈ drawingOrder hs ↔ h ∈ hs :=
  (drawnInOrder_drawingOrder hs).perm.mem_iff

/-- The cells of a marker row are the last writes on the columns up to the greatest one written. -/
theorem markerCells_eq {hs : List Highlight} (hne : hs ≠ []) (hstart : ∀ h ∈ hs, 0 ≤ h.start) :
    ∃ greatest, IsGreatest {c | ∃ h ∈ hs, (h.write? c).isSome} greatest ∧
      markerCells hs = (List.range (greatest + 1)).map (lastWrite (drawingOrder hs)) := by
  have horder : ∀ h ∈ drawingOrder hs, 0 ≤ h.start := fun h hh => hstart h (mem_drawingOrder.mp hh)
  have hlength : ∀ c, c < (markerCells hs).length ↔ ∃ h ∈ hs, c < h.drawStop := by
    intro c
    unfold markerCells
    rw [lt_length_draw_all]
    simp [mem_drawingOrder]
  obtain ⟨g, hg⟩ := List.exists_mem_of_ne_nil hs hne
  have hpos : 0 < (markerCells hs).length :=
    (hlength 0).mpr ⟨g, hg, Nat.zero_lt_of_lt g.column_lt_drawStop⟩
  refine ⟨(markerCells hs).length - 1, ⟨?_, ?_⟩, ?_⟩
  · obtain ⟨h, hh, hlt⟩ := (hlength ((markerCells hs).length - 1)).mp (by omega)
    have hle : h.drawStop ≤ (markerCells hs).length := by
      have hlast := (hlength (h.drawStop - 1)).mpr ⟨h, hh, by omega⟩
      omega
    have hcolumn := h.column_lt_drawStop
    exact ⟨h, hh, (Highlight.isSome_write? (hstart h hh) _).mpr ⟨by omega, hlt⟩⟩
  · rintro c ⟨h, hh, hc⟩
    have hlt := ((Highlight.isSome_write? (hstart h hh) c).mp hc).2
    have := (hlength c).mpr ⟨h, hh, hlt⟩
    omega
  · apply List.ext_getElem?
    intro c
    by_cases hc : c < (markerCells hs).length
    · rw [getElem?_eq_cellAt hc, List.getElem?_map, List.getElem?_range (by omega)]
      simp only [Option.map_some, markerCells, cellAt_draw_all horder]
      rfl
    · rw [List.getElem?_eq_none (by omega), List.getElem?_eq_none (by simp; omega)]

end Diagnostics
