import Diagnostics.Proofs.Excerpt.HighlightBounds
import Diagnostics.Proofs.Layout.PlainRows

/-! # What stays visible in a marker row

Highlights are drawn from left to right, and a later one covers what an earlier one wrote. But
whatever is drawn later writes nothing in front of its own start, so of the highlights that start
on one column the last one is always seen there, with a glyph of its run. The highlight that is
drawn last is seen in full, but for blanks at the end of the row.
-/
namespace Diagnostics

theorem Excerpt.fits_of_mem_highlightsOn {e : Excerpt} (he : e.Sound) {h : Highlight} {number : Int}
    (hh : h ∈ e.highlightsOn number) : h.Fits e.lines ∧ h.line = number := by
  obtain ⟨hmem, hline⟩ := List.mem_filter.mp hh
  exact ⟨he.fits h hmem, of_decide_eq_true hline⟩

/-- Of the highlights drawn after a highlight, none writes on a column. -/
def Uncovered (order : List Highlight) (h : Highlight) (c : Nat) : Prop :=
  ∃ before after, order = before ++ h :: after ∧ ∀ g ∈ after, g.write? c = none

namespace Highlight
variable {h : Highlight} {c : Nat}

theorem write?_of_lt (hc : (c : Int) < h.start) : h.write? c = none := by
  rw [write?, if_pos hc]

theorem write?_run (hstart : h.start ≤ c) (hstop : (c : Int) < h.runStop) :
    h.write? c = some h.level.glyph := by
  rw [write?, if_neg (by omega), if_pos hstop]

theorem start_lt_runStop (h : Highlight) : h.start < h.runStop := by
  unfold runStop
  omega

/-- From its start on, a highlight writes its glyphs and then its note. -/
theorem write?_column_add (hstart : 0 ≤ h.start) (i : Nat) :
    h.write? (h.column + i) = (List.replicate h.width h.level.glyph ++ h.noteChars)[i]? := by
  have hcolumn := column_eq hstart
  have hstop := column_add_width hstart
  by_cases hi : i < h.width
  · rw [write?_run (by omega) (by omega), List.getElem?_append_left (by simpa using hi),
      List.getElem?_replicate_of_lt hi]
  · have hindex : (((h.column + i : Nat) : Int) - h.runStop).toNat = i - h.width := by omega
    rw [write?, if_neg (by omega), if_neg (by omega), hindex,
      List.getElem?_append_right (by simpa using Nat.le_of_not_lt hi), List.length_replicate]

end Highlight

theorem isBlank_glyph (l : Level) : Text.isBlank l.glyph = false := by
  cases l <;> rfl

theorem lastWrite_of_uncovered {order : List Highlight} {h : Highlight} {c : Nat} {ch : Char}
    (hun : Uncovered order h c) (hwrite : h.write? c = some ch) :
    lastWrite order c = ⟨ch, some h.level.markerRole⟩ := by
  obtain ⟨before, after, rfl, hafter⟩ := hun
  have hnone : (after.reverse.findSome? fun g => g.cellAt? c) = none := by
    simpa [List.findSome?_eq_none_iff, Highlight.cellAt?] using hafter
  have hcell : h.cellAt? c = some ⟨ch, some h.level.markerRole⟩ := by
    rw [Highlight.cellAt?, hwrite, Option.map_some]
  rw [lastWrite, List.reverse_append, List.reverse_cons, List.append_assoc,
    List.findSome?_append, hnone, Option.none_or, List.singleton_append, List.findSome?_cons_of_isSome]
  · rw [hcell, Option.getD_some]
  · rw [hcell, Option.isSome_some]

section Row
variable {hs : List Highlight} {h : Highlight} {c : Nat} {ch : Char}

theorem cellAt_markerCells (hstart : ∀ h ∈ hs, 0 ≤ h.start) (c : Nat) :
    cellAt (markerCells hs) c = lastWrite (drawingOrder hs) c :=
  cellAt_draw_all (fun h hh => hstart h (mem_drawingOrder.mp hh)) [] c

theorem getElem?_markerCells (hstart : ∀ h ∈ hs, 0 ≤ h.start)
    (hun : Uncovered (drawingOrder hs) h c) (hwrite : h.write? c = some ch) :
    (markerCells hs)[c]? = some ⟨ch, some h.level.markerRole⟩ := by
  have hcell := (cellAt_markerCells hstart c).trans (lastWrite_of_uncovered hun hwrite)
  have hlt : c < (markerCells hs).length := by
    by_contra hle
    rw [cellAt, List.getElem?_eq_none (Nat.le_of_not_lt hle)] at hcell
    cases hcell
  rw [getElem?_eq_cellAt hlt, hcell]

theorem getElem?_behind_bar (width : Nat) (cs : List Char) (c : Nat) :
    (List.replicate width ' ' ++ ' ' :: '|' :: ' ' :: cs)[width + 3 + c]? = cs[c]? := by
  rw [List.getElem?_append_right (by simp; omega), List.length_replicate,
    show width + 3 + c - width = c + 1 + 1 + 1 by omega]
  simp only [List.getElem?_cons_succ]

/-- What is written and not covered is also seen, unless it is blank. -/
theorem getElem?_markerRow (hstart : ∀ h ∈ hs, 0 ≤ h.start) (hun : Uncovered (drawingOrder hs) h c)
    (hwrite : h.write? c = some ch) (hch : Text.isBlank ch = false) (width : Nat) :
    (Style.plain.row (Excerpt.markerRow width hs)).toList[width + 3 + c]? = some ch := by
  rw [Excerpt.toList_plain_markerRow]
  refine Text.getElem?_dropEndWhile ?_ hch
  rw [getElem?_behind_bar, List.getElem?_map, getElem?_markerCells hstart hun hwrite,
    Option.map_some]

end Row

/-- On the column on which a highlight starts, the last one of those that start there is not
covered: what is drawn after it starts further right. -/
theorem DrawnInOrder.exists_uncovered {hs order : List Highlight} (ho : DrawnInOrder hs order)
    {h : Highlight} (hh : h ∈ hs) (hstart : 0 ≤ h.start) :
    ∃ k, (hs.filter fun g => g.start = h.start).getLast? = some k ∧ k.start = h.start ∧
      Uncovered order k h.column := by
  have hmem : h ∈ hs.filter fun g => g.start = h.start := List.mem_filter.mpr ⟨hh, by simp⟩
  obtain ⟨front, k, hfront⟩ :=
    (List.eq_nil_or_concat' _).resolve_left (List.ne_nil_of_mem hmem)
  have hk : k.start = h.start := by
    have hkmem : k ∈ hs.filter fun g => g.start = h.start := by simp [hfront]
    simpa using (List.mem_filter.mp hkmem).2
  -- the order in which they are drawn splits where `k` stands, with no more of these behind it
  have hstable : (order.filter fun g => g.start = h.start) = front ++ [k] :=
    (ho.stable h.start).trans hfront
  obtain ⟨left, right, rfl, -, hright⟩ := List.filter_eq_append_iff.mp hstable
  obtain ⟨gap, after, rfl, -, -, hafter⟩ := List.filter_eq_cons_iff.mp hright
  refine ⟨k, by rw [hfront, List.getLast?_concat], hk, left ++ gap, after, by simp, ?_⟩
  intro g hg
  have hge : k.start ≤ g.start :=
    (List.pairwise_cons.mp (List.pairwise_append.mp (List.pairwise_append.mp ho.sorted).2.1).2.1).1 g hg
  have hne : g.start ≠ h.start := by
    simpa using List.filter_eq_nil_iff.mp hafter g hg
  have hcolumn := Highlight.column_eq hstart
  exact Highlight.write?_of_lt (by omega)

theorem prefix_markerCells_of_last {hs : List Highlight} (hstart : ∀ h ∈ hs, 0 ≤ h.start)
    {last : Highlight} (hlast : (drawingOrder hs).getLast? = some last) :
    List.replicate last.width last.level.glyph ++ last.noteChars <+:
      ((markerCells hs).map Cell.char).drop last.column := by
  have hmem : last ∈ hs := mem_drawingOrder.mp (List.mem_of_getLast? hlast)
  obtain ⟨before, hbefore⟩ := List.getLast?_eq_some_iff.mp hlast
  have hun : ∀ c, Uncovered (drawingOrder hs) last c :=
    fun c => ⟨before, [], hbefore, List.forall_mem_nil _⟩
  refine List.prefix_iff_getElem?.mpr fun i hi => ?_
  have hwrite := Highlight.write?_column_add (hstart last hmem) i
  rw [List.getElem?_eq_getElem hi] at hwrite
  rw [List.getElem?_drop, List.getElem?_map, getElem?_markerCells hstart (hun _) hwrite,
    Option.map_some]

/-- The glyphs and the note of the highlight that is drawn last are seen side by side, but for
blanks at the end. -/
theorem prefix_markerRow_of_last {hs : List Highlight} (hstart : ∀ h ∈ hs, 0 ≤ h.start)
    {last : Highlight} (hlast : (drawingOrder hs).getLast? = some last) (width : Nat) :
    List.replicate last.width last.level.glyph ++
        Text.dropEndWhile Text.isBlank last.noteChars <+:
      (Style.plain.row (Excerpt.markerRow width hs)).toList.drop (width + 3 + last.column) := by
  have hwidth : last.width ≠ 0 := Nat.one_le_iff_ne_zero.mp (Nat.le_max_right _ _)
  obtain ⟨rest, hrest⟩ := prefix_markerCells_of_last hstart hlast
  rw [Excerpt.toList_plain_markerRow]
  generalize (markerCells hs).map Cell.char = cs at hrest ⊢
  have hcolumn : last.column < cs.length := by
    have hlength := congrArg List.length hrest
    simp only [List.length_append, List.length_replicate, List.length_drop] at hlength
    omega
  let front := List.replicate width ' ' ++ ' ' :: '|' :: ' ' :: cs.take last.column
  have hfront : front.length = width + 3 + last.column := by
    simp only [front, List.length_append, List.length_replicate, List.length_cons,
      List.length_take]
    omega
  have hglyph : (front ++ List.replicate last.width last.level.glyph).getLast? =
      some last.level.glyph := by
    rw [List.getLast?_append, List.getLast?_replicate, if_neg hwidth, Option.some_or]
  have hsplit : List.replicate width ' ' ++ ' ' :: '|' :: ' ' :: cs =
      front ++ List.replicate last.width last.level.glyph ++ (last.noteChars ++ rest) := by
    conv_lhs => rw [← List.take_append_drop last.column cs, ← hrest]
    simp [front]
  rw [hsplit, Text.dropEndWhile_append_of_getLast? hglyph (isBlank_glyph _), List.append_assoc,
    ← hfront, List.drop_left, List.prefix_append_right_inj]
  exact Text.dropEndWhile_prefix_append _ _ _

/-- In the marker row below a line, every highlight of the line shows where it starts: there stands
a glyph of the run of the last one that starts on its column, which no later note or run covers.
The highlight drawn last shows its whole run and its note, but for blanks at the end. -/
theorem highlights_visible {e : Excerpt} (he : e.Sound) {l : SourceLine} (hl : l ∈ e.lines)
    (hne : e.highlightsOn l.number ≠ []) :
    ∃ row order, [Style.plain.row (Excerpt.lineRow e.gutterWidth l), row] <:+: e.layout .plain ∧
      row = Style.plain.row (Excerpt.markerRow e.gutterWidth (e.highlightsOn l.number)) ∧
      DrawnInOrder (e.highlightsOn l.number) order ∧
      (∀ h ∈ e.highlightsOn l.number, ∃ k,
        ((e.highlightsOn l.number).filter fun g => g.start = h.start).getLast? = some k ∧
        row.toList[e.gutterWidth + 3 + h.start.toNat]? = some k.level.glyph ∧
        Text.isBlank k.level.glyph = false ∧
        Uncovered order k h.start.toNat ∧ k.start = h.start ∧ k.start < k.runStop) ∧
      ∃ last, order.getLast? = some last ∧
        List.replicate last.width last.level.glyph ++
            Text.dropEndWhile Text.isBlank last.noteChars <+:
          row.toList.drop (e.gutterWidth + 3 + last.start.toNat) := by
  have hstart : ∀ h ∈ e.highlightsOn l.number, 0 ≤ h.start :=
    fun h hh => (Excerpt.fits_of_mem_highlightsOn he hh).1.start_nonneg
  have horder := drawnInOrder_drawingOrder (e.highlightsOn l.number)
  refine ⟨_, drawingOrder (e.highlightsOn l.number), ?_, rfl, horder, ?_, ?_⟩
  · exact e.rows_infix_layout .plain hl hne
  · intro h hh
    obtain ⟨k, hk, hkstart, hun⟩ := horder.exists_uncovered hh (hstart h hh)
    have hcolumn := Highlight.column_eq (hstart h hh)
    have hstop := k.start_lt_runStop
    have hwrite : k.write? h.column = some k.level.glyph :=
      Highlight.write?_run (by omega) (by omega)
    exact ⟨k, hk, getElem?_markerRow hstart hun hwrite (isBlank_glyph _) _, isBlank_glyph _, hun,
      hkstart, hstop⟩
  · obtain ⟨h, hh⟩ := List.exists_mem_of_ne_nil _ hne
    have hsome : drawingOrder (e.highlightsOn l.number) ≠ [] :=
      List.ne_nil_of_mem (mem_drawingOrder.mpr hh)
    obtain ⟨last, hlast⟩ := Option.isSome_iff_exists.mp (List.getLast?_isSome.mpr hsome)
    exact ⟨last, hlast, prefix_markerRow_of_last hstart hlast _⟩

def crowded : Excerpt :=
  ⟨[⟨7, "let x = 1"⟩], [⟨7, 8, 9, some "one ", .info⟩, ⟨7, 4, 5, some "here", .error⟩,
    ⟨7, 4, 4, none, .warning⟩, ⟨7, 6, 7, none, .error⟩], none⟩

example : crowded.layout .plain = ["7 | let x = 1", "  |     ~ ^e- one"] := by cbv

theorem highlights_visible_crowded :
    crowded.Sound ∧ ⟨7, "let x = 1"⟩ ∈ crowded.lines ∧ crowded.highlightsOn 7 ≠ [] ∧
      ∃ row, ["7 | let x = 1", row] <:+: crowded.layout .plain ∧
        row.toList[8]? = some '~' ∧ ∃ last ∈ crowded.highlights,
          List.replicate last.width last.level.glyph ++
              Text.dropEndWhile Text.isBlank last.noteChars <+:
            row.toList.drop (4 + last.start.toNat) := by
  have hsound : crowded.Sound := by decide
  have hmem : (⟨7, "let x = 1"⟩ : SourceLine) ∈ crowded.lines := List.mem_singleton.mpr rfl
  have hne : crowded.highlightsOn 7 ≠ [] := by decide
  obtain ⟨row, order, hrows, -, horder, hstarts, last, hlast, hseen⟩ :=
    highlights_visible hsound hmem hne
  obtain ⟨k, hk, hshown, -⟩ := hstarts ⟨7, 4, 5, some "here", .error⟩ (by decide)
  obtain rfl : (⟨7, 4, 4, none, .warning⟩ : Highlight) = k := Option.some.inj hk
  refine ⟨hsound, hmem, hne, row, hrows, hshown, last, ?_, hseen⟩
  exact List.mem_of_mem_filter (horder.perm.mem_iff.mp (List.mem_of_getLast? hlast))

end Diagnostics
