import Diagnostics.Proofs.Layout.Visibility
import Diagnostics.Proofs.Text.Numerals

/-! # The gutter and the columns behind it

The gutter is as wide as the largest line number, so the numbers end and the bars stand on one
column in all rows of an excerpt. Behind the bars the columns of the text and those of the marker
row agree: a highlight is drawn below the very characters that it marks.
-/
namespace Diagnostics

namespace Excerpt
variable {e : Excerpt} {l : SourceLine}

theorem isGreatest_maxNumber (hne : e.lines ≠ []) :
    IsGreatest {n | ∃ l ∈ e.lines, l.number = n} e.maxNumber := by
  obtain ⟨l, ls, hlines⟩ := List.exists_cons_of_ne_nil hne
  have hmax : (e.lines.map SourceLine.number).max? = some e.maxNumber := by
    rw [maxNumber, hlines, List.map_cons, List.max?_cons', List.foldl_map]
  obtain ⟨hmem, hle⟩ := List.max?_eq_some_iff.mp hmax
  exact ⟨List.mem_map.mp hmem, fun n hn => hle n (List.mem_map.mpr hn)⟩

theorem one_le_maxNumber (hne : e.lines ≠ []) (hpos : ∀ l ∈ e.lines, 1 ≤ l.number) :
    1 ≤ e.maxNumber := by
  obtain ⟨l, hl, hnumber⟩ := (isGreatest_maxNumber hne).1
  exact hnumber ▸ hpos l hl

theorem gutterWidth_eq (hne : e.lines ≠ []) (hpos : ∀ l ∈ e.lines, 1 ≤ l.number) :
    e.gutterWidth = (Nat.toDigits 10 e.maxNumber.toNat).length := by
  have hle := one_le_maxNumber hne hpos
  unfold gutterWidth
  rw [if_neg (by simpa using hne), ← String.length_toList, Text.toList_decimal (by omega)]

theorem length_toDigits_le_gutterWidth (hpos : ∀ l ∈ e.lines, 1 ≤ l.number) (hl : l ∈ e.lines) :
    (Nat.toDigits 10 l.number.toNat).length ≤ e.gutterWidth := by
  have hne := List.ne_nil_of_mem hl
  have hle : l.number ≤ e.maxNumber := (isGreatest_maxNumber hne).2 ⟨l, hl, rfl⟩
  rw [gutterWidth_eq hne hpos]
  exact Text.length_toDigits_mono (Int.toNat_le_toNat hle)

end Excerpt

/-- The row of a line with some highlights, behind a gutter of some width. -/
structure LineAligned (width : Nat) (l : SourceLine) (hs : List Highlight) (row : List Char) :
    Prop where
  number_fits : (Nat.toDigits 10 l.number.toNat).length ≤ width
  gutter : row.take (width + 2) =
    List.replicate (width - (Nat.toDigits 10 l.number.toNat).length) ' ' ++
      Nat.toDigits 10 l.number.toNat ++ [' ', '|']
  bar : row[width + 1]? = some '|'
  text : l.text ≠ "" → row.drop (width + 3) = l.text.toList
  column : ∀ h ∈ hs, ∀ c : Nat, h.start ≤ c → (c : Int) < h.stop →
    ∃ ch, l.text.toList[c]? = some ch ∧ row[width + 3 + c]? = some ch
  within : ∀ h ∈ hs, h.runStop ≤ l.text.length ∨
    h.start = h.stop ∧ h.stop = l.text.length ∧ h.width = 1

/-- The marker row of some highlights, behind a gutter of some width. Every highlight draws its run
from its start on, as far as no later one covers it, and nothing is seen but what is drawn. -/
structure MarkerAligned (width : Nat) (hs : List Highlight) (row : List Char) : Prop where
  gutter : List.replicate width ' ' ++ [' ', '|'] <+: row
  bar : row[width + 1]? = some '|'
  run : ∃ order, DrawnInOrder hs order ∧ ∀ h ∈ hs, ∀ c : Nat, h.start ≤ c → (c : Int) < h.runStop →
    Uncovered order h c → row[width + 3 + c]? = some h.level.glyph
  drawn : ∀ c ch, row[width + 3 + c]? = some ch → ch = ' ' ∨ ∃ h ∈ hs, h.write? c = some ch

theorem lastWrite_eq_blank_or (order : List Highlight) (c : Nat) :
    lastWrite order c = .blank ∨ ∃ h ∈ order, h.write? c = some (lastWrite order c).char := by
  unfold lastWrite
  cases hfound : order.reverse.findSome? fun h => h.cellAt? c with
  | none => exact .inl rfl
  | some cell =>
    obtain ⟨h, hh, hcell⟩ := List.exists_of_findSome?_eq_some hfound
    obtain ⟨ch, hwrite, rfl⟩ := Option.map_eq_some_iff.mp hcell
    exact .inr ⟨h, List.mem_reverse.mp hh, hwrite⟩

namespace Excerpt
variable {e : Excerpt} {l : SourceLine}

/-- A run that reaches past the end of its line consists of one glyph, of an empty range there. -/
theorem runStop_le_or (he : e.Sound) (hl : l ∈ e.lines) {h : Highlight}
    (hh : h ∈ e.highlightsOn l.number) : h.runStop ≤ l.text.length ∨
      h.start = h.stop ∧ h.stop = l.text.length ∧ h.width = 1 := by
  obtain ⟨hfits, hline⟩ := fits_of_mem_highlightsOn he hh
  have hle := hfits.start_le_stop
  have hlength := hfits.stop_le_length l hl hline.symm
  unfold Highlight.runStop Highlight.width
  omega

theorem exists_plain_lineRow {width : Nat} (hnonneg : 0 ≤ l.number)
    (hfits : (Nat.toDigits 10 l.number.toNat).length ≤ width) :
    ∃ number : List Char, number.length = width ∧
      number = List.replicate (width - (Nat.toDigits 10 l.number.toNat).length) ' ' ++
        Nat.toDigits 10 l.number.toNat ∧
      (Style.plain.row (lineRow width l)).toList =
        number ++ ' ' :: '|' :: if l.text = "" then [] else ' ' :: l.text.toList := by
  refine ⟨_, ?_, rfl, ?_⟩
  · rw [List.length_append, List.length_replicate]
    omega
  · rw [toList_plain_lineRow, ← String.length_toList, Text.toList_decimal hnonneg]

theorem lineAligned (he : e.Sound) (hl : l ∈ e.lines) :
    LineAligned e.gutterWidth l (e.highlightsOn l.number)
      (Style.plain.row (lineRow e.gutterWidth l)).toList := by
  have hfits := length_toDigits_le_gutterWidth he.number_pos hl
  obtain ⟨number, hlength, hnumber, hrow⟩ :=
    exists_plain_lineRow (he.number_nonneg hl) hfits
  have htext : l.text ≠ "" →
      (Style.plain.row (lineRow e.gutterWidth l)).toList.drop (e.gutterWidth + 3) =
        l.text.toList := by
    intro hne
    rw [hrow, if_neg hne, ← hlength, List.drop_length_add_append]
    rfl
  refine ⟨hfits, ?_, ?_, htext, ?_, fun h hh => runStop_le_or he hl hh⟩
  · rw [hrow, ← hnumber, ← hlength, List.take_length_add_append]
    rfl
  · rw [hrow, ← hlength, List.getElem?_append_right (by omega), Nat.add_sub_cancel_left]
    rfl
  · intro h hh c hstart hstop
    obtain ⟨hfits, hline⟩ := fits_of_mem_highlightsOn he hh
    have hle := hfits.stop_le_length l hl hline.symm
    have hlt : c < l.text.toList.length := by
      rw [String.length_toList]
      omega
    have hne : l.text ≠ "" := by
      intro hempty
      rw [hempty] at hlt
      exact absurd hlt (Nat.not_lt_zero c)
    refine ⟨l.text.toList[c], List.getElem?_eq_getElem hlt, ?_⟩
    rw [← List.getElem?_drop, htext hne, List.getElem?_eq_getElem hlt]

end Excerpt

/-- In a marker row nothing is seen but blanks and what some highlight writes there. -/
theorem eq_blank_or_written {width : Nat} {hs : List Highlight} (hstart : ∀ h ∈ hs, 0 ≤ h.start)
    {c : Nat} {ch : Char}
    (hch : (Style.plain.row (Excerpt.markerRow width hs)).toList[width + 3 + c]? = some ch) :
    ch = ' ' ∨ ∃ h ∈ hs, h.write? c = some ch := by
  -- what the trimmed row still shows stands in the row before trimming, too
  have hcells : ((markerCells hs).map Cell.char)[c]? = some ch := by
    rw [Excerpt.toList_plain_markerRow] at hch
    rw [← getElem?_behind_bar width]
    obtain ⟨trimmed, htrimmed⟩ := Text.prefix_dropEndWhile Text.isBlank
      (List.replicate width ' ' ++ ' ' :: '|' :: ' ' :: (markerCells hs).map Cell.char)
    rw [← htrimmed, List.getElem?_append_left (List.getElem?_eq_some_iff.mp hch).1]
    exact hch
  rw [List.getElem?_map] at hcells
  obtain ⟨cell, hcell, rfl⟩ := Option.map_eq_some_iff.mp hcells
  have hlast : cell = lastWrite (drawingOrder hs) c := by
    rw [← cellAt_markerCells hstart, cellAt, hcell, Option.getD_some]
  rcases lastWrite_eq_blank_or (drawingOrder hs) c with hblank | ⟨h, hh, hwrite⟩
  · exact .inl (by rw [hlast, hblank]; rfl)
  · exact .inr ⟨h, mem_drawingOrder.mp hh, hlast ▸ hwrite⟩

theorem markerAligned (width : Nat) {hs : List Highlight} (hstart : ∀ h ∈ hs, 0 ≤ h.start) :
    MarkerAligned width hs (Style.plain.row (Excerpt.markerRow width hs)).toList := by
  have hgutter := Excerpt.gutter_prefix_markerRow width hs
  refine ⟨hgutter, ?_, ⟨drawingOrder hs, drawnInOrder_drawingOrder hs, ?_⟩, ?_⟩
  · obtain ⟨rest, hrest⟩ := hgutter
    rw [← hrest]
    simp
  · intro h hh c hfrom hto hun
    exact getElem?_markerRow hstart hun (Highlight.write?_run hfrom hto) (isBlank_glyph _) width
  · exact fun c ch hch => eq_blank_or_written hstart hch

/-- In a plain layout the gutter has as many columns as the largest line number has digits. All
numbers end and all bars stand on the same columns, texts begin on the third column behind the
gutter, and every run is drawn below the characters that its highlight marks, so that only the one
glyph of an empty range at the end of a line stands behind the text. -/
theorem layout_aligned {e : Excerpt} (he : e.Sound) (hne : e.lines ≠ []) :
    (∃ greatest : Nat, IsGreatest {n : Int | ∃ l ∈ e.lines, l.number = n} greatest ∧
      e.gutterWidth = (Nat.digits 10 greatest).length) ∧
    (e.layout .plain =
      (e.file.toList.map fun file => Style.plain.row (e.placeRow file)) ++
        e.lines.flatMap fun l => Style.plain.row (Excerpt.lineRow e.gutterWidth l) ::
          if e.highlightsOn l.number = [] then []
          else [Style.plain.row (Excerpt.markerRow e.gutterWidth (e.highlightsOn l.number))]) ∧
    (∀ file, List.replicate e.gutterWidth ' ' ++ ['-', '-', '>'] <+:
      (Style.plain.row (e.placeRow file)).toList) ∧
    (∀ l ∈ e.lines, LineAligned e.gutterWidth l (e.highlightsOn l.number)
      (Style.plain.row (Excerpt.lineRow e.gutterWidth l)).toList) ∧
    ∀ l ∈ e.lines, MarkerAligned e.gutterWidth (e.highlightsOn l.number)
      (Style.plain.row (Excerpt.markerRow e.gutterWidth (e.highlightsOn l.number))).toList := by
  have hpos := Excerpt.one_le_maxNumber hne he.number_pos
  refine ⟨⟨e.maxNumber.toNat, ?_, ?_⟩, e.layout_eq .plain, ?_, ?_, ?_⟩
  · rw [Int.toNat_of_nonneg (by omega)]
    exact Excerpt.isGreatest_maxNumber hne
  · rw [Excerpt.gutterWidth_eq hne he.number_pos, Text.length_toDigits (by omega)]
  · intro file
    rw [Excerpt.toList_plain_placeRow]
    exact ⟨' ' :: (e.place file).toList, by simp⟩
  · exact fun l hl => Excerpt.lineAligned he hl
  · intro l hl
    exact markerAligned _ fun h hh => (Excerpt.fits_of_mem_highlightsOn he hh).1.start_nonneg

def staggered : Excerpt :=
  ⟨[⟨9, ""⟩, ⟨120, "ab"⟩, ⟨10, "é"⟩], [⟨120, 2, 2, some "end", .error⟩, ⟨10, 0, 1, none, .info⟩,
    ⟨9, 0, 0, none, .warning⟩], some "notes.txt"⟩

example : staggered.layout .plain = ["   --> notes.txt", "  9 |", "    | ~", "120 | ab",
    "    |   ^ end", " 10 | é", "    | -"] := by cbv

theorem layout_aligned_staggered :
    staggered.Sound ∧ staggered.lines ≠ [] ∧ staggered.gutterWidth = 3 ∧
      (Style.plain.row (Excerpt.lineRow 3 ⟨120, "ab"⟩)).toList.drop 6 = ['a', 'b'] ∧
      ∀ l ∈ staggered.lines,
        (Style.plain.row (Excerpt.lineRow 3 l)).toList[4]? = some '|' ∧
        (Style.plain.row (Excerpt.markerRow 3 (staggered.highlightsOn l.number))).toList[4]? =
          some '|' := by
  have hsound : staggered.Sound := by decide
  have hne : staggered.lines ≠ [] := List.cons_ne_nil _ _
  obtain ⟨⟨greatest, hgreatest, hdigits⟩, -, -, hlines, hmarkers⟩ := layout_aligned hsound hne
  have hmax : IsGreatest {n : Int | ∃ l ∈ staggered.lines, l.number = n} 120 :=
    Excerpt.isGreatest_maxNumber hne
  have hgreatest' : greatest = 120 := by exact_mod_cast hgreatest.unique hmax
  have hwidth : staggered.gutterWidth = 3 := by
    rw [hdigits, hgreatest']
    norm_num
  rw [hwidth] at hlines hmarkers
  refine ⟨hsound, hne, hwidth, ?_, fun l hl => ⟨(hlines l hl).bar, (hmarkers l hl).bar⟩⟩
  exact (hlines ⟨120, "ab"⟩ (by decide)).text (by decide)

end Diagnostics
