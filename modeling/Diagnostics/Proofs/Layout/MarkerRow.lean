import Diagnostics.Layout.Excerpt
import Diagnostics.Proofs.Layout.Drawing
import Mathlib.Data.List.SplitBy

/-! # The marker row of a line

Every column of a marker row shows the last write on it. A style gets the cells in maximal segments
of one role, each of them once; cells that nothing was written on are left raw. What stands in front
of the cells and the trimming at the end are the same in every style.
-/
namespace Diagnostics

/-- Characters side by side in one role, or in none. -/
structure Segment where
  role : Option Role
  chars : List Char
  deriving DecidableEq, Repr

namespace Segment

def cells (s : Segment) : List Cell := s.chars.map fun c => ⟨c, s.role⟩

def written (style : Style) (s : Segment) : String :=
  match s.role with
  | none => String.ofList s.chars
  | some r => style.color r (String.ofList s.chars)

def ofCells (cells : List Cell) : Segment :=
  ⟨cells.head?.bind Cell.role, cells.map Cell.char⟩

end Segment

/-- The segments into which cells are cut wherever the role changes, and nowhere else. -/
structure MaximalSegments (cells : List Cell) (segments : List Segment) : Prop where
  cells_eq : segments.flatMap Segment.cells = cells
  ne_nil : ∀ s ∈ segments, s.chars ≠ []
  role_ne : segments.IsChain fun a b => a.role ≠ b.role

theorem role_eq_of_isChain {c : Cell} {cs : List Cell}
    (h : (c :: cs).IsChain fun a b => (a.role == b.role) = true) :
    ∀ b ∈ c :: cs, b.role = c.role := by
  induction cs generalizing c with
  | nil => simp
  | cons d cs ih =>
    obtain ⟨hcd, hrest⟩ := List.isChain_cons_cons.mp h
    have hd : c.role = d.role := eq_of_beq hcd
    intro b hb
    rcases List.mem_cons.mp hb with rfl | hb
    · rfl
    · exact (ih hrest b hb).trans hd.symm

section Groups
variable {cells group : List Cell}

theorem ofCells_role (h : group ∈ cells.splitBy fun a b => a.role == b.role) {b : Cell}
    (hb : b ∈ group) : (Segment.ofCells group).role = b.role := by
  have hchain := List.isChain_of_mem_splitBy h
  cases group with
  | nil => cases hb
  | cons c cs => exact (role_eq_of_isChain hchain b hb).symm

theorem cells_ofCells (h : group ∈ cells.splitBy fun a b => a.role == b.role) :
    (Segment.ofCells group).cells = group := by
  unfold Segment.cells
  have hcell : ∀ b ∈ group, (⟨b.char, (Segment.ofCells group).role⟩ : Cell) = b := by
    intro b hb
    rw [ofCells_role h hb]
  change (group.map Cell.char).map _ = group
  rw [List.map_map]
  exact (List.map_congr_left hcell).trans (List.map_id group)

theorem span_cellSpan (style : Style) (h : group ∈ cells.splitBy fun a b => a.role == b.role) :
    style.span (cellSpan group) = (Segment.ofCells group).written style := by
  cases group with
  | nil => exact absurd h (List.nil_notMem_splitBy _ _)
  | cons c cs =>
    obtain ⟨ch, role⟩ := c
    cases role <;> rfl

end Groups

/-- Cells are written in their maximal segments, each of which is coloured once. -/
theorem exists_maximalSegments (cells : List Cell) :
    ∃ segments, MaximalSegments cells segments ∧ ∀ style : Style,
      style.spans (cellSpans cells) = String.join (segments.map (Segment.written style)) := by
  let groups := cells.splitBy fun a b => a.role == b.role
  refine ⟨groups.map Segment.ofCells, ⟨?_, ?_, ?_⟩, ?_⟩
  · have hgroups : groups.map (fun group => (Segment.ofCells group).cells) = groups :=
      (List.map_congr_left fun group h => cells_ofCells h).trans (List.map_id groups)
    rw [List.flatMap_map, List.flatMap_def, hgroups]
    exact List.flatten_splitBy _ _
  · intro s hs
    obtain ⟨group, hgroup, rfl⟩ := List.mem_map.mp hs
    have hne := List.ne_nil_of_mem_splitBy hgroup
    simpa [Segment.ofCells] using hne
  · refine (List.isChain_map _).mpr ?_
    refine (List.isChain_getLast_head_splitBy (fun a b : Cell => a.role == b.role) cells).imp_of_mem_imp ?_
    rintro a b ha hb ⟨hane, hbne, hab⟩ heq
    rw [ofCells_role ha (List.getLast_mem hane), ofCells_role hb (List.head_mem hbne)] at heq
    simp [heq] at hab
  · intro style
    unfold Style.spans cellSpans
    rw [List.map_map, List.map_map]
    exact congrArg String.join (List.map_congr_left fun group h => span_cellSpan style h)

/-- A marker row in a style: blanks, the bar and the segments of its cells, without blanks at the
end. -/
theorem row_markerRow (style : Style) (width : Nat) (hs : List Highlight) :
    style.row (Excerpt.markerRow width hs) = Text.trimEnd (blanks width ++ " " ++
      style.color .gutter "|" ++ " " ++ style.spans (cellSpans (markerCells hs))) := by
  unfold Style.row Excerpt.markerRow
  rw [if_pos rfl]
  apply congrArg Text.trimEnd
  apply String.toList_inj.mp
  simp [Style.span, Span.bare, Span.inRole]

theorem join_written_plain {cells : List Cell} {segments : List Segment}
    (h : MaximalSegments cells segments) :
    String.join (segments.map (Segment.written .plain)) = String.ofList (cells.map Cell.char) := by
  apply String.toList_inj.mp
  rw [String.toList_join, String.toList_ofList, ← h.cells_eq, List.flatMap_map, List.map_flatMap]
  have hchars : ∀ s : Segment, (s.written .plain).toList = s.cells.map Cell.char := by
    intro s
    obtain ⟨role, chars⟩ := s
    cases role <;> simp [Segment.written, Segment.cells, Function.comp_def]
  simp only [hchars]

/-- The marker row of some highlights of one line. Drawn by the columns on which they start, they
leave the last write on every column up to the greatest one written; plainly these characters stand
behind the bar, and any style colours every maximal segment in a role once. -/
theorem markerRow_lastWrite (width : Nat) {hs : List Highlight} (hne : hs ≠ [])
    (hstart : ∀ h ∈ hs, 0 ≤ h.start) :
    ∃ order greatest segments, DrawnInOrder hs order ∧
      IsGreatest {c | ∃ h ∈ hs, (h.write? c).isSome} greatest ∧
      MaximalSegments ((List.range (greatest + 1)).map (lastWrite order)) segments ∧
      Style.plain.row (Excerpt.markerRow width hs) = Text.trimEnd (blanks width ++ " | " ++
        String.ofList ((List.range (greatest + 1)).map fun c => (lastWrite order c).char)) ∧
      ∀ style : Style, style.row (Excerpt.markerRow width hs) =
        Text.trimEnd (blanks width ++ " " ++ style.color .gutter "|" ++ " " ++
          String.join (segments.map (Segment.written style))) := by
  obtain ⟨greatest, hgreatest, hcells⟩ := markerCells_eq hne hstart
  obtain ⟨segments, hsegments, hwritten⟩ := exists_maximalSegments (markerCells hs)
  have hrow : ∀ style : Style, style.row (Excerpt.markerRow width hs) =
      Text.trimEnd (blanks width ++ " " ++ style.color .gutter "|" ++ " " ++
        String.join (segments.map (Segment.written style))) := by
    intro style
    rw [row_markerRow, hwritten]
  refine ⟨drawingOrder hs, greatest, segments, drawnInOrder_drawingOrder hs, hgreatest,
    hcells ▸ hsegments, ?_, hrow⟩
  rw [hrow, join_written_plain hsegments, hcells, List.map_map]
  apply congrArg Text.trimEnd
  apply String.toList_inj.mp
  simp [Function.comp_def]

def overlapping : List Highlight :=
  [⟨1, 2, 5, some "x", .error⟩, ⟨1, 0, 0, some "a note", .info⟩]

example : Style.plain.row (Excerpt.markerRow 2 overlapping) = "   | - ^^^ xe" := by cbv

theorem markerRow_lastWrite_overlapping :
    overlapping ≠ [] ∧ (∀ h ∈ overlapping, 0 ≤ h.start) ∧
      ∃ order greatest segments, DrawnInOrder overlapping order ∧
        IsGreatest {c | ∃ h ∈ overlapping, (h.write? c).isSome} greatest ∧
        MaximalSegments ((List.range (greatest + 1)).map (lastWrite order)) segments ∧
        Style.plain.row (Excerpt.markerRow 2 overlapping) = Text.trimEnd (blanks 2 ++ " | " ++
          String.ofList ((List.range (greatest + 1)).map fun c => (lastWrite order c).char)) ∧
        ∀ style : Style, style.row (Excerpt.markerRow 2 overlapping) =
          Text.trimEnd (blanks 2 ++ " " ++ style.color .gutter "|" ++ " " ++
            String.join (segments.map (Segment.written style))) := by
  have hne : overlapping ≠ [] := by decide
  have hstart : ∀ h ∈ overlapping, 0 ≤ h.start := by decide
  exact ⟨hne, hstart, markerRow_lastWrite 2 hne hstart⟩

end Diagnostics
