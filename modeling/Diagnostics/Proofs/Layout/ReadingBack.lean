import Diagnostics.Proofs.Excerpt.HighlightBounds
import Diagnostics.Proofs.Layout.PlainRows
import Diagnostics.Proofs.Text.Numerals

/-! # Reading a plain layout back

The first character behind the blanks of a row tells what the row is: the arrow of the place, the
bar of a marker row, or the first digit of a line number. So each row of a plain layout is read on
its own, without the width of the gutter, and no character of a text, a note or a file name is
looked at before that is settled.
-/
namespace Diagnostics

/-- What a row is, and the line that it shows if it shows one. -/
inductive RowContent where
  | place
  | line (l : SourceLine)
  | marker
  deriving DecidableEq, Repr

/-- Reads a number, the bar behind it and the text, which one blank sets off from the bar. -/
def readLine? (cs : List Char) : Option SourceLine :=
  let number := Nat.ofDigitChars 10 (cs.takeWhile Char.isDigit) 0
  match cs.dropWhile Char.isDigit with
  | [' ', '|'] => some ⟨number, ""⟩
  | ' ' :: '|' :: ' ' :: text => some ⟨number, String.ofList text⟩
  | _ => none

def readContent? : List Char → Option RowContent
  | '-' :: _ => some .place
  | '|' :: _ => some .marker
  | cs => (readLine? cs).map .line

def readRow? (row : String) : Option RowContent :=
  readContent? (row.toList.dropWhile (· = ' '))

/-- The lines that some rows show, each with whether a marker row stands right below it. -/
def shownLines : List RowContent → List (SourceLine × Bool)
  | [] => []
  | .line l :: .marker :: rest => (l, true) :: shownLines rest
  | .line l :: rest => (l, false) :: shownLines rest
  | _ :: rest => shownLines rest

theorem readLine?_digits (n : Nat) (text : String) :
    readLine? (Nat.toDigits 10 n ++ ' ' :: '|' :: if text = "" then [] else ' ' :: text.toList) =
      some ⟨n, text⟩ := by
  have hdigits : ∀ c ∈ Nat.toDigits 10 n, c.isDigit = true :=
    fun c hc => Nat.isDigit_of_mem_toDigits (by decide) (by decide) hc
  unfold readLine?
  rw [List.takeWhile_append_of_pos hdigits, List.dropWhile_append_of_pos hdigits]
  by_cases htext : text = ""
  · simp [htext, Nat.ofDigitChars_toDigits]
  · simp [htext, Nat.ofDigitChars_toDigits]

theorem readContent?_of_isDigit {c : Char} (hc : c.isDigit = true) (cs : List Char) :
    readContent? (c :: cs) = (readLine? (c :: cs)).map .line := by
  unfold readContent?
  split
  · next harrow =>
    cases harrow
    cases hc
  · next hbar =>
    cases hbar
    cases hc
  · rfl

theorem dropWhile_blanks (n : Nat) {c : Char} (hc : c ≠ ' ') (cs : List Char) :
    (List.replicate n ' ' ++ c :: cs).dropWhile (· = ' ') = c :: cs := by
  rw [List.dropWhile_append_of_pos (by simp), List.dropWhile_cons_of_neg (by simpa using hc)]

namespace Excerpt

/-- What the rows of a laid out excerpt are. -/
def contents (e : Excerpt) : List RowContent :=
  (e.file.toList.map fun _ => .place) ++
    e.lines.flatMap fun l => .line l :: if e.highlightsOn l.number = [] then [] else [.marker]

theorem readRow?_placeRow (e : Excerpt) (file : String) :
    readRow? (Style.plain.row (e.placeRow file)) = some .place := by
  unfold readRow?
  rw [toList_plain_placeRow, dropWhile_blanks _ (by decide)]
  rfl

theorem readRow?_markerRow (width : Nat) (hs : List Highlight) :
    readRow? (Style.plain.row (markerRow width hs)) = some .marker := by
  obtain ⟨rest, hrest⟩ := gutter_prefix_markerRow width hs
  have hbar : List.replicate width ' ' ++ [' ', '|'] ++ rest =
      List.replicate (width + 1) ' ' ++ '|' :: rest := by
    simp [List.replicate_succ']
  unfold readRow?
  rw [← hrest, hbar, dropWhile_blanks _ (by decide)]
  rfl

theorem readRow?_lineRow (width : Nat) {l : SourceLine} (hnonneg : 0 ≤ l.number) :
    readRow? (Style.plain.row (lineRow width l)) = some (.line l) := by
  obtain ⟨n, hn⟩ := Int.eq_ofNat_of_zero_le hnonneg
  obtain ⟨d, ds, hdigits⟩ := List.exists_cons_of_ne_nil (Nat.toDigits_ne_nil (n := n) (b := 10))
  have hd : d.isDigit = true :=
    Nat.isDigit_of_mem_toDigits (n := n) (by decide) (by decide) (hdigits ▸ List.mem_cons_self)
  have hblank : d ≠ ' ' := by rintro rfl; cases hd
  unfold readRow?
  rw [toList_plain_lineRow, Text.toList_decimal hnonneg, hn, Int.toNat_natCast, List.append_assoc]
  have hread := readLine?_digits n l.text
  rw [hdigits, List.cons_append] at hread ⊢
  rw [dropWhile_blanks _ hblank, readContent?_of_isDigit hd, hread, ← hn, Option.map_some]

theorem map_readRow?_layout {e : Excerpt} (he : e.Sound) :
    (e.layout .plain).map readRow? = e.contents.map some := by
  have hline : ∀ l ∈ e.lines, readRow? (Style.plain.row (lineRow e.gutterWidth l)) =
      some (.line l) :=
    fun l hl => readRow?_lineRow _ (he.number_nonneg hl)
  rw [layout_eq, contents, List.map_append, List.map_append, List.map_map, List.map_map,
    List.map_flatMap, List.map_flatMap]
  refine congrArg₂ (· ++ ·) ?_ ?_
  · simp only [Function.comp_def, readRow?_placeRow]
  · refine List.flatMap_congr fun l hl => ?_
    rw [List.map_cons, hline l hl]
    by_cases hnone : e.highlightsOn l.number = [] <;> simp [hnone, readRow?_markerRow]

end Excerpt

theorem shownLines_flatMap (marked : SourceLine → Bool) (ls : List SourceLine) :
    shownLines (ls.flatMap fun l => .line l :: if marked l then [.marker] else []) =
      ls.map fun l => (l, marked l) := by
  induction ls with
  | nil => rfl
  | cons l ls ih =>
    rw [List.flatMap_cons, List.map_cons, ← ih]
    cases hmarked : marked l with
    | true => rfl
    | false =>
      -- The next row shows a line or there is none, so no marker row follows.
      cases ls <;> rfl

namespace Excerpt

theorem shownLines_contents (e : Excerpt) :
    shownLines e.contents = e.lines.map fun l => (l, decide (e.highlightsOn l.number ≠ [])) := by
  rw [← shownLines_flatMap, contents]
  cases e.file <;> simp [shownLines]

theorem place_mem_contents {e : Excerpt} : .place ∈ e.contents ↔ e.file ≠ none := by
  unfold contents
  cases e.file <;> simp

theorem lines_eq_of_contents_eq {e₁ e₂ : Excerpt} (h : e₁.contents = e₂.contents) :
    e₁.lines = e₂.lines ∧
      (∀ l ∈ e₁.lines, e₁.highlightsOn l.number = [] ↔ e₂.highlightsOn l.number = []) ∧
      (e₁.file = none ↔ e₂.file = none) := by
  have hshown := congrArg shownLines h
  rw [shownLines_contents, shownLines_contents] at hshown
  have hlines : e₁.lines = e₂.lines := by
    simpa [Function.comp_def] using congrArg (List.map Prod.fst) hshown
  refine ⟨hlines, fun l hl => ?_, ?_⟩
  · rw [← hlines] at hshown
    have hmarked := List.map_inj_left.mp hshown l hl
    simpa [not_iff_not] using congrArg Prod.snd hmarked
  · exact not_iff_not.mp (by rw [← ne_eq, ← ne_eq, ← place_mem_contents, ← place_mem_contents, h])

end Excerpt

/-- Each row of a plain layout is read back as what it is, a line with its number and its text,
whatever the texts, the notes and the name of the file consist of. So two excerpts with one layout
have the same lines in the same order, marks below the same ones of them, and either both a file
or none. -/
theorem layout_read_back {e : Excerpt} (he : e.Sound) :
    (e.layout .plain).map readRow? = e.contents.map some ∧
      ∀ e' : Excerpt, e'.Sound → e'.layout .plain = e.layout .plain →
        e'.lines = e.lines ∧
        (∀ l ∈ e.lines, e'.highlightsOn l.number = [] ↔ e.highlightsOn l.number = []) ∧
        (e'.file = none ↔ e.file = none) := by
  refine ⟨e.map_readRow?_layout he, fun e' he' hlayout => ?_⟩
  have hread : e'.contents.map some = e.contents.map some := by
    rw [← Excerpt.map_readRow?_layout he', hlayout, Excerpt.map_readRow?_layout he]
  have hcontents : e'.contents = e.contents :=
    List.map_injective_iff.mpr (Option.some_injective _) hread
  obtain ⟨hlines, hmarks, hfile⟩ := Excerpt.lines_eq_of_contents_eq hcontents
  exact ⟨hlines, hlines ▸ hmarks, hfile⟩

def twice : Excerpt :=
  ⟨[⟨9, "-> | x"⟩, ⟨10, ""⟩], [⟨9, 0, 2, some "| 7", .error⟩, ⟨9, 0, 2, some "| 7", .error⟩],
    some "a:9:1"⟩

/-- Its layout does not tell how often the highlight was given, nor which part of the place is the
name of the file. -/
theorem layout_read_back_twice :
    let once : Excerpt := ⟨twice.lines, [⟨9, 0, 2, some "| 7", .error⟩], some "a"⟩
    twice.Sound ∧ once.Sound ∧ once.layout .plain = twice.layout .plain ∧ once ≠ twice ∧
      (twice.layout .plain).map readRow? =
        [some .place, some (.line ⟨9, "-> | x"⟩), some .marker, some (.line ⟨10, ""⟩)] ∧
      once.lines = twice.lines ∧ (once.highlightsOn 9 = [] ↔ twice.highlightsOn 9 = []) := by
  intro once
  have htwice : twice.Sound := by decide
  have honce : once.Sound := by decide
  have hcells : markerCells (once.highlightsOn 9) = markerCells (twice.highlightsOn 9) := by
    have honce : drawingOrder (once.highlightsOn 9) = once.highlightsOn 9 :=
      List.mergeSort_of_pairwise (by decide)
    have htwice : drawingOrder (twice.highlightsOn 9) = twice.highlightsOn 9 :=
      List.mergeSort_of_pairwise (by decide)
    rw [markerCells, markerCells, honce, htwice]
    decide
  have hwidth : once.gutterWidth = twice.gutterWidth := by decide
  have hplace : once.placeRow "a" = twice.placeRow "a:9:1" := by decide
  have hmarked : once.rowsOf ⟨9, "-> | x"⟩ = twice.rowsOf ⟨9, "-> | x"⟩ := by
    unfold Excerpt.rowsOf Excerpt.markerRow
    dsimp only
    rw [hwidth, hcells]
    rfl
  have hlast : once.rowsOf ⟨10, ""⟩ = twice.rowsOf ⟨10, ""⟩ := by decide
  have hrows : once.rows = twice.rows := by
    rw [Excerpt.rows_eq, Excerpt.rows_eq]
    exact congrArg₂ List.append (congrArg ([·]) hplace)
      (congrArg₂ List.append hmarked (congrArg (· ++ []) hlast))
  have hlayout : once.layout .plain = twice.layout .plain :=
    congrArg (List.map Style.plain.row) hrows
  have hcontents : twice.contents =
      [.place, .line ⟨9, "-> | x"⟩, .marker, .line ⟨10, ""⟩] := by decide
  obtain ⟨hread, hsame⟩ := layout_read_back htwice
  obtain ⟨hlines, hmarks, -⟩ := hsame once honce hlayout
  rw [hcontents] at hread
  exact ⟨htwice, honce, hlayout, by decide, hread, hlines, hmarks _ List.mem_cons_self⟩

end Diagnostics
