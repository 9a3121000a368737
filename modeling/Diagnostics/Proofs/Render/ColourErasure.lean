import Diagnostics.Proofs.Layout.PlainRows
import Diagnostics.Proofs.Render.Provenance
import Mathlib.Data.List.DropRight

/-! # Erasing colour

A control sequence is an escape, a bracket, at least one digit and an `m`. Where no given text
holds an escape, all control sequences of a rendering are those of the style, so erasing them leaves
what plain style writes. Marker rows are trimmed after styling: in ANSI style a marker row ends in a
reset, which keeps the blanks at the end of a note.
-/
namespace Diagnostics

def escape : Char := '\x1b'

def afterControl? : List Char → Option (List Char)
  | '\x1b' :: '[' :: cs =>
    match cs.takeWhile Char.isDigit, cs.dropWhile Char.isDigit with
    | _ :: _, 'm' :: rest => some rest
    | _, _ => none
  | _ => none

theorem afterControl?_length {cs rest : List Char} (h : afterControl? cs = some rest) :
    rest.length < cs.length := by
  unfold afterControl? at h
  split at h
  · next cs =>
    split at h
    · next hdrop =>
      have hle := (List.dropWhile_sublist (l := cs) Char.isDigit).length_le
      rw [hdrop] at hle
      cases h
      simp only [List.length_cons] at hle ⊢
      omega
    · cases h
  · cases h

/-- A text without its control sequences, which are looked for from left to right. -/
def eraseControls (cs : List Char) : List Char :=
  match cs with
  | [] => []
  | c :: cs =>
    match _h : afterControl? (c :: cs) with
    | some rest => eraseControls rest
    | none => c :: eraseControls cs
termination_by cs.length
decreasing_by
  · exact afterControl?_length _h
  · simp

def eraseColour (s : String) : String := String.ofList (eraseControls s.toList)

@[simp] theorem eraseControls_nil : eraseControls [] = [] := by rw [eraseControls]

theorem eraseControls_of_after {cs rest : List Char} (h : afterControl? cs = some rest) :
    eraseControls cs = eraseControls rest := by
  cases cs with
  | nil => cases h
  | cons c cs =>
    rw [eraseControls]
    split
    · next h' => rw [Option.some.inj (h'.symm.trans h)]
    · next h' => cases h'.symm.trans h

theorem eraseControls_cons {c : Char} (hc : c ≠ escape) (cs : List Char) :
    eraseControls (c :: cs) = c :: eraseControls cs := by
  have hnone : afterControl? (c :: cs) = none := by
    unfold afterControl?
    split
    · next heq => exact absurd (List.cons.inj heq).1 hc
    · rfl
  rw [eraseControls]
  split
  · next h => cases hnone.symm.trans h
  · rfl

theorem eraseControls_append {cs : List Char} (h : ∀ c ∈ cs, c ≠ escape) (rest : List Char) :
    eraseControls (cs ++ rest) = cs ++ eraseControls rest := by
  induction cs with
  | nil => rfl
  | cons c cs ih =>
    rw [List.forall_mem_cons] at h
    rw [List.cons_append, eraseControls_cons h.1, ih h.2, List.cons_append]

theorem eraseControls_control (code : Nat) (rest : List Char) :
    eraseControls ((Style.control code).toList ++ rest) = eraseControls rest := by
  have hdigits : ∀ c ∈ Nat.toDigits 10 code, c.isDigit = true :=
    fun c hc => Nat.isDigit_of_mem_toDigits (by decide) (by decide) hc
  have htext : (Style.control code).toList ++ rest =
      '\x1b' :: '[' :: (Nat.toDigits 10 code ++ 'm' :: rest) := by
    simp [Style.control, Text.natural]
  rw [htext]
  apply eraseControls_of_after
  have htake : (Nat.toDigits 10 code ++ 'm' :: rest).takeWhile Char.isDigit = Nat.toDigits 10 code := by
    rw [List.takeWhile_append_of_pos hdigits]
    simp
  have hdrop : (Nat.toDigits 10 code ++ 'm' :: rest).dropWhile Char.isDigit = 'm' :: rest := by
    rw [List.dropWhile_append_of_pos hdigits]
    simp
  unfold afterControl?
  simp only [htake, hdrop]
  cases hd : Nat.toDigits 10 code with
  | nil => exact absurd hd Nat.toDigits_ne_nil
  | cons d ds => rfl

theorem eraseControls_foldl_control (codes : List Nat) (text : String) (rest : List Char) :
    eraseControls ((codes.foldl (fun t code => Style.control code ++ t) text).toList ++ rest) =
      eraseControls (text.toList ++ rest) := by
  induction codes generalizing text with
  | nil => rfl
  | cons code codes ih =>
    rw [List.foldl_cons, ih, String.toList_append, List.append_assoc, eraseControls_control]

theorem eraseControls_controlled (codes : List Nat) {text : String} (h : MadeOf (· ≠ escape) text)
    (rest : List Char) :
    eraseControls ((Style.controlled codes text).toList ++ rest) = text.toList ++ eraseControls rest := by
  unfold Style.controlled
  split
  · next hempty => simp [hempty]
  · rw [String.toList_append, List.append_assoc, eraseControls_foldl_control,
      eraseControls_append h, eraseControls_control]

theorem eraseControls_span {s : Span} (h : MadeOf (· ≠ escape) s.text) (rest : List Char) :
    eraseControls ((Style.ansi.span s).toList ++ rest) = s.text.toList ++ eraseControls rest := by
  unfold Style.span
  split
  · exact eraseControls_append h rest
  · exact eraseControls_controlled _ h rest
  · exact eraseControls_controlled _ h rest

/-- Erasing colour from spans without escapes leaves their texts. -/
theorem eraseColour_spans {ss : List Span} (h : ∀ s ∈ ss, MadeOf (· ≠ escape) s.text) :
    eraseColour (Style.ansi.spans ss) = Style.plain.spans ss := by
  apply String.toList_inj.mp
  rw [eraseColour, String.toList_ofList, Style.toList_spans, Style.toList_spans]
  induction ss with
  | nil => exact eraseControls_nil
  | cons s ss ih =>
    rw [List.forall_mem_cons] at h
    rw [List.flatMap_cons, eraseControls_span h.1, ih h.2, List.flatMap_cons, plain_span]

example : eraseColour (Style.ansi.spans [.inRole .error "error", .bare "[E1]"]) = "error[E1]" := by
  cbv

/-! ## Marker rows -/

/-- The last cell, if there is one, was written by a stroke. -/
def EndsWritten (cells : List Cell) : Prop :=
  ∀ c, c + 1 = cells.length → (cellAt cells c).role ≠ none

theorem EndsWritten.role_ne {cells : List Cell} {cell : Cell} (h : EndsWritten cells)
    (hlast : cells.getLast? = some cell) : cell.role ≠ none := by
  rw [List.getLast?_eq_getElem?] at hlast
  have hlt := (List.getElem?_eq_some_iff.mp hlast).1
  have hrole := h (cells.length - 1) (by omega)
  rwa [cellAt, hlast] at hrole

theorem strokes_ne_nil {h : Highlight} {s : Stroke} (hs : s ∈ h.strokes) : s.chars ≠ [] := by
  rcases Highlight.mem_strokes.mp hs with rfl | ⟨hnote, rfl⟩
  · have hwidth : 1 ≤ h.width := Nat.le_max_right _ _
    simp only [Highlight.run, ne_eq, List.replicate_eq_nil_iff]
    omega
  · exact hnote

theorem endsWritten_draw {cells : List Cell} {s : Stroke} (hs : s.chars ≠ [])
    (h : EndsWritten cells) : EndsWritten (draw cells s) := by
  intro c hc
  rw [length_draw] at hc
  rw [cellAt_draw]
  have hpos : 0 < s.chars.length := List.length_pos_of_ne_nil hs
  cases hcell : s.cellAt? c with
  | none =>
    -- the stroke does not reach the last column, which stays as it was
    have hbehind : s.column ≤ c → s.column + s.chars.length ≤ c := by
      intro hle
      rw [Stroke.cellAt?, if_pos hle, List.getElem?_eq_none_iff, Stroke.cells, List.length_map] at hcell
      omega
    exact h c (by omega)
  | some cell =>
    unfold Stroke.cellAt? at hcell
    split at hcell
    · obtain ⟨ch, -, rfl⟩ := List.mem_map.mp (List.mem_of_getElem? hcell)
      exact Option.some_ne_none _
    · cases hcell

theorem endsWritten_draw_all {strokes : List Stroke} {cells : List Cell}
    (hs : ∀ s ∈ strokes, s.chars ≠ []) (h : EndsWritten cells) :
    EndsWritten (strokes.foldl draw cells) := by
  induction strokes generalizing cells with
  | nil => exact h
  | cons s rest ih =>
    rw [List.forall_mem_cons] at hs
    exact ih hs.2 (endsWritten_draw hs.1 h)

theorem endsWritten_markerCells (hs : List Highlight) : EndsWritten (markerCells hs) := by
  have hempty : EndsWritten [] := by
    intro c hc
    cases hc
  refine endsWritten_draw_all ?_ hempty
  intro s hmem
  obtain ⟨h, -, hstroke⟩ := List.mem_flatMap.mp hmem
  exact strokes_ne_nil hstroke

theorem markerCells_ne_nil {hs : List Highlight} (hne : hs ≠ []) : markerCells hs ≠ [] := by
  obtain ⟨h, hh⟩ := List.exists_mem_of_ne_nil hs hne
  apply List.ne_nil_of_length_pos
  exact (lt_length_draw_all (drawingOrder hs) [] 0).mpr
    (.inr ⟨h, mem_drawingOrder.mpr hh, Nat.zero_lt_of_lt h.column_lt_drawStop⟩)

theorem controlled_getLast? (codes : List Nat) {text : String} (h : text ≠ "") :
    (Style.controlled codes text).toList.getLast? = some 'm' := by
  unfold Style.controlled
  rw [if_neg h, Style.control]
  simp only [String.toList_append, List.getLast?_append]
  rfl

theorem trimEnd_of_getLast? {s : String} {c : Char} (hlast : s.toList.getLast? = some c)
    (hc : Text.isBlank c = false) : Text.trimEnd s = s :=
  String.toList_inj.mp
    (String.toList_ofList.trans (Text.dropEndWhile_of_getLast? hlast hc))

/-- The last of the segments into which the cells of a marker row are cut is coloured. -/
theorem ansi_cellSpans_getLast? {hs : List Highlight} (hne : hs ≠ []) :
    (Style.ansi.spans (cellSpans (markerCells hs))).toList.getLast? = some 'm' := by
  obtain ⟨segments, hsegments, hwritten⟩ := exists_maximalSegments (markerCells hs)
  have hsome : segments ≠ [] := by
    rintro rfl
    exact markerCells_ne_nil hne hsegments.cells_eq.symm
  obtain ⟨front, last, rfl⟩ := (List.eq_nil_or_concat' segments).resolve_left hsome
  have hchars : last.chars ≠ [] := hsegments.ne_nil last (by simp)
  have hrole : last.role ≠ none := by
    obtain ⟨chars, c, hc⟩ := (List.eq_nil_or_concat' last.chars).resolve_left hchars
    have hlast : (markerCells hs).getLast? = some ⟨c, last.role⟩ := by
      simp [← hsegments.cells_eq, Segment.cells, hc]
    exact (endsWritten_markerCells hs).role_ne hlast
  obtain ⟨role, hrole⟩ := Option.ne_none_iff_exists'.mp hrole
  have hcolour : (last.written .ansi).toList.getLast? = some 'm' := by
    simp only [Segment.written, hrole]
    exact controlled_getLast? _ (by simpa using hchars)
  rw [hwritten, List.map_append, String.toList_join, List.flatMap_append, List.getLast?_append]
  simp [hcolour]

/-- In ANSI style the last column of a marker row is coloured, so nothing is trimmed. -/
theorem ansi_row_markerRow (width : Nat) {hs : List Highlight} (hne : hs ≠ []) :
    Style.ansi.row (Excerpt.markerRow width hs) =
      Style.ansi.spans (Excerpt.markerRow width hs).spans := by
  refine trimEnd_of_getLast? ?_ (by decide : Text.isBlank 'm' = false)
  have hcells := ansi_cellSpans_getLast? hne
  rw [Style.toList_spans] at hcells ⊢
  rw [Excerpt.markerRow, List.flatMap_append, List.getLast?_append, hcells, Option.some_or]

theorem trimEnd_trimEnd (s : String) : Text.trimEnd (Text.trimEnd s) = Text.trimEnd s := by
  apply String.toList_inj.mp
  rw [Text.trimEnd, Text.trimEnd, String.toList_ofList, String.toList_ofList]
  exact List.rdropWhile_idempotent Text.isBlank s.toList

/-! ## Reports and summaries -/

/-- A row is the marker row below a line of an excerpt of the report or of one of its causes. -/
def Report.HasMarkerRow (r : Report) (row : Row) : Prop :=
  ∃ f ∈ r.chain, ∃ e ∈ f.excerpts, ∃ l ∈ e.lines, e.highlightsOn l.number ≠ [] ∧
    row = Excerpt.markerRow e.gutterWidth (e.highlightsOn l.number)

theorem Excerpt.trimmed_of_mem_rows {e : Excerpt} {row : Row} (h : row ∈ e.rows)
    (htrimmed : row.trimmed = true) : ∃ l ∈ e.lines, e.highlightsOn l.number ≠ [] ∧
      row = markerRow e.gutterWidth (e.highlightsOn l.number) := by
  unfold rows at h
  rcases List.mem_append.mp h with h | h
  · split at h
    · rw [List.mem_singleton.mp h] at htrimmed
      cases htrimmed
    · cases h
  · obtain ⟨l, hl, hrow⟩ := List.mem_flatMap.mp h
    unfold rowsOf at hrow
    rcases List.mem_cons.mp hrow with rfl | hrow
    · cases htrimmed
    · split at hrow
      · cases hrow
      · next hne => exact ⟨l, hl, by simpa using hne, List.mem_singleton.mp hrow⟩

theorem trimmed_rowOf {text : Option String} {row : String → Row} {r : Row}
    (hrow : ∀ s, (row s).trimmed = false) (h : r ∈ rowOf text row) : r.trimmed = false := by
  unfold rowOf at h
  split at h
  · cases h
  · split at h
    · cases h
    · rw [List.mem_singleton.mp h]
      exact hrow _

theorem Finding.trimmed_of_mem_rows {f : Finding} {row : Row} (h : row ∈ f.rows)
    (htrimmed : row.trimmed = true) : ∃ e ∈ f.excerpts, row ∈ e.rows := by
  have hno : row.trimmed ≠ false := by simp [htrimmed]
  simp only [Finding.rows, List.mem_append, List.mem_cons] at h
  rcases h with ((((rfl | h) | h) | h) | h) | h
  · cases htrimmed
  · obtain ⟨s, -, rfl⟩ := Option.map_eq_some_iff.mp (Option.mem_toList.mp h)
    cases htrimmed
  · exact absurd (trimmed_rowOf (fun _ => rfl) h) hno
  · exact List.mem_flatMap.mp h
  · exact absurd (trimmed_rowOf (fun _ => rfl) h) hno
  · exact absurd (trimmed_rowOf (fun _ => rfl) h) hno

theorem Report.hasMarkerRow_iff {r : Report} {row : Row} (h : row ∈ r.rows) :
    r.HasMarkerRow row ↔ row.trimmed = true := by
  constructor
  · rintro ⟨f, -, e, -, l, -, -, rfl⟩
    rfl
  · intro htrimmed
    have hfinding : ∃ f ∈ r.chain, row ∈ f.rows := by
      induction r with
      | root f =>
        rw [rows_root] at h
        exact ⟨f, by simp, h⟩
      | wrapping f cause ih =>
        rw [rows_wrapping] at h
        rcases List.mem_append.mp h with h | h
        · exact ⟨f, by simp, h⟩
        · rcases List.mem_cons.mp h with rfl | h
          · cases htrimmed
          · obtain ⟨g, hg, hrow⟩ := ih h
            exact ⟨g, by simp [hg], hrow⟩
    obtain ⟨f, hf, hrow⟩ := hfinding
    obtain ⟨e, he, hrow⟩ := Finding.trimmed_of_mem_rows hrow htrimmed
    exact ⟨f, hf, e, he, Excerpt.trimmed_of_mem_rows hrow htrimmed⟩

theorem eraseColour_row {row : Row} (h : row.MadeOf (· ≠ escape)) (htrimmed : row.trimmed ≠ true) :
    eraseColour (Style.ansi.row row) = Style.plain.row row := by
  unfold Style.row
  rw [if_neg htrimmed, if_neg htrimmed]
  exact eraseColour_spans h

theorem isOwn_ne_escape (c : Char) (h : isOwn c = true) : c ≠ escape := by
  rintro rfl
  exact absurd h (by decide)

theorem madeOf_ne_escape_iff {s : String} : MadeOf (· ≠ escape) s ↔ escape ∉ s.toList := by
  constructor
  · intro h hmem
    exact h escape hmem rfl
  · rintro h c hc rfl
    exact h hc

theorem eraseColour_markerRow {width : Nat} {hs : List Highlight} (hne : hs ≠ [])
    (h : (Excerpt.markerRow width hs).MadeOf (· ≠ escape)) :
    eraseColour (Style.ansi.row (Excerpt.markerRow width hs)) =
      Style.plain.spans (Excerpt.markerRow width hs).spans := by
  rw [ansi_row_markerRow width hne]
  exact eraseColour_spans h

/-- Erasing colour gives the plain rows of a report whose texts hold no escape, and every plain
summary. Only a marker row may differ, by the blanks at its end, which are not dropped from it in
ANSI style. -/
theorem eraseColour_renderLines :
    (∀ r : Report, (∀ s ∈ r.texts, escape ∉ s.toList) →
      (r.renderLines .ansi).length = (r.renderLines .plain).length ∧
      ∀ (i : Nat) (row : Row), r.rows[i]? = some row → ∃ coloured bare, (r.renderLines .ansi)[i]? = some coloured ∧
        (r.renderLines .plain)[i]? = some bare ∧
        (¬ r.HasMarkerRow row → eraseColour coloured = bare) ∧
        (r.HasMarkerRow row → eraseColour coloured = Style.plain.spans row.spans ∧
          Text.trimEnd (eraseColour coloured) = Text.trimEnd bare)) ∧
    ∀ c : Collection, eraseColour (c.summary .ansi) = c.summary .plain := by
  refine ⟨?_, ?_⟩
  · intro r htexts
    have hmade : ∀ row ∈ r.rows, row.MadeOf (· ≠ escape) := by
      refine madeOf_report_rows isOwn_ne_escape fun s hs c hc => ?_
      rintro rfl
      exact htexts s hs hc
    refine ⟨by simp [Report.renderLines], fun i row hrow => ?_⟩
    have hmem : row ∈ r.rows := List.mem_of_getElem? hrow
    refine ⟨Style.ansi.row row, Style.plain.row row, by simp [Report.renderLines, hrow],
      by simp [Report.renderLines, hrow], ?_, ?_⟩
    · intro hno
      exact eraseColour_row (hmade row hmem) (mt (Report.hasMarkerRow_iff hmem).mpr hno)
    · rintro ⟨f, -, e, -, l, -, hne, rfl⟩
      have herase := eraseColour_markerRow hne (hmade _ hmem)
      refine ⟨herase, ?_⟩
      rw [herase]
      exact (trimEnd_trimEnd _).symm
  · intro c
    have htrimmed : c.summaryRow.trimmed ≠ true := by
      unfold Collection.summaryRow
      split <;> exact Bool.false_ne_true
    exact eraseColour_row (madeOf_summaryRow isOwn_ne_escape c) htrimmed

/-- A report with a note that ends in blanks. -/
def Report.withBlankEnd : Report :=
  .root ⟨"E1", "no value", .error, some "in a binding", none, none, none,
    [⟨[⟨7, "let x"⟩], [⟨7, 4, 5, some "here  ", .error⟩], none⟩]⟩

theorem eraseColour_blankEnd :
    (∀ s ∈ Report.withBlankEnd.texts, escape ∉ s.toList) ∧
      (Report.withBlankEnd.renderLines .ansi).length =
        (Report.withBlankEnd.renderLines .plain).length ∧
      ∃ coloured bare, (Report.withBlankEnd.renderLines .ansi)[3]? = some coloured ∧
        (Report.withBlankEnd.renderLines .plain)[3]? = some bare ∧
        eraseColour coloured = "  |     ^ here  " ∧
        Text.trimEnd (eraseColour coloured) = Text.trimEnd bare := by
  let h : Highlight := ⟨7, 4, 5, some "here  ", .error⟩
  have htexts : ∀ s ∈ Report.withBlankEnd.texts, escape ∉ s.toList := by decide
  have hrow : Report.withBlankEnd.rows[3]? = some (Excerpt.markerRow 1 [h]) := rfl
  have hmarker : Report.withBlankEnd.HasMarkerRow (Excerpt.markerRow 1 [h]) :=
    ⟨_, List.mem_cons_self, _, List.mem_cons_self, _, List.mem_cons_self, by decide, rfl⟩
  obtain ⟨hlength, hrows⟩ := eraseColour_renderLines.1 Report.withBlankEnd htexts
  obtain ⟨coloured, bare, hcoloured, hbare, -, hmarked⟩ := hrows 3 _ hrow
  obtain ⟨herase, htrim⟩ := hmarked hmarker
  refine ⟨htexts, hlength, coloured, bare, hcoloured, hbare, ?_, htrim⟩
  have horder : drawingOrder [h] = [h] := by simp [drawingOrder]
  rw [herase, Excerpt.markerRow, markerCells, horder]
  decide

end Diagnostics
