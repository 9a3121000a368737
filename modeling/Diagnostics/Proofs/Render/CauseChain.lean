import Diagnostics.Proofs.Wrapping
import Diagnostics.Render
import Mathlib.Logic.Relation

/-! # Cause chains below their dividers

A report is rendered in one pass over its chain, with a divider in front of every finding but the
first. The result is the recursive layout: the section of the finding, and below a divider the whole
rendering of the cause. So a conversion puts two rows on top and keeps the rest as it was.
-/
namespace Diagnostics

def headerLine (style : Style) (level : Level) (identifier title : String) : String :=
  style.color level.labelRole level.word ++ "[" ++ style.color .identifier identifier ++ "]: " ++
    style.emphasize title

def dividerLine (style : Style) : String := style.emphasize "caused by:"

/-- A text in a list, unless it is missing or empty. -/
def givenText (text : Option String) : List String := text.toList.filter fun s => s ≠ ""

/-- What a finding contributes to a rendering: the header, the site, the message, the rows of all
excerpts in order, the help and the link, as far as they are there. -/
def Finding.sectionLines (style : Style) (f : Finding) : List String :=
  [headerLine style f.level f.identifier f.title]
    ++ (f.site.toList.map fun s => "  " ++ style.color .gutter "=" ++ " defined at " ++ s.text)
    ++ givenText f.message
    ++ f.excerpts.flatMap (fun e => e.layout style)
    ++ ((givenText f.help).map fun s => style.color .helpMarker "help" ++ ": " ++ s)
    ++ ((givenText f.docUrl).map fun s => style.color .helpMarker "url" ++ ": " ++ style.color .url s)

theorem row_ofSpans (style : Style) (ss : List Span) :
    style.row (.ofSpans ss) = style.spans ss := rfl

theorem row_causeDivider (style : Style) : style.row causeDivider = dividerLine style := by
  apply String.toList_inj.mp
  simp [causeDivider, row_ofSpans, Style.span, dividerLine]

theorem row_header (style : Style) (f : Finding) :
    style.row f.header = headerLine style f.level f.identifier f.title := by
  apply String.toList_inj.mp
  simp [Finding.header, row_ofSpans, Style.span, Span.inRole, Span.bare, headerLine]

theorem row_site (style : Style) (s : Site) :
    style.row s.row = "  " ++ style.color .gutter "=" ++ " defined at " ++ s.text := by
  apply String.toList_inj.mp
  simp [Site.row, row_ofSpans, Style.span, Span.inRole, Span.bare]

theorem map_rowOf (style : Style) (text : Option String) (row : String → Row) :
    (rowOf text row).map style.row = (givenText text).map fun s => style.row (row s) := by
  cases text with
  | none => rfl
  | some s => by_cases hs : s = "" <;> simp [rowOf, givenText, hs]

theorem map_rows_finding (style : Style) (f : Finding) :
    f.rows.map style.row = f.sectionLines style := by
  have hmessage : ∀ s, style.row (.ofSpans [.bare s]) = s := by
    intro s
    apply String.toList_inj.mp
    simp [row_ofSpans, Style.span, Span.bare]
  have hhelp : ∀ s, style.row (.ofSpans [.inRole .helpMarker "help", .bare (": " ++ s)]) =
      style.color .helpMarker "help" ++ ": " ++ s := by
    intro s
    apply String.toList_inj.mp
    simp [row_ofSpans, Style.span, Span.inRole, Span.bare]
  have hurl : ∀ s, style.row (.ofSpans [.inRole .helpMarker "url", .bare ": ", .inRole .url s]) =
      style.color .helpMarker "url" ++ ": " ++ style.color .url s := by
    intro s
    apply String.toList_inj.mp
    simp [row_ofSpans, Style.span, Span.inRole, Span.bare]
  have hsite : (f.site.map Site.row).toList.map style.row = f.site.toList.map fun s =>
      "  " ++ style.color .gutter "=" ++ " defined at " ++ s.text := by
    cases f.site with
    | none => rfl
    | some s => simp [row_site]
  unfold Finding.rows Finding.sectionLines
  simp only [List.map_append, List.map_cons, map_rowOf, row_header, hmessage, hhelp, hurl, hsite,
    List.map_flatMap, List.map_id', List.cons_append, List.nil_append]
  rfl

theorem foldl_addFinding (fs : List Finding) {rows : List Row} (h : rows ≠ []) :
    fs.foldl addFinding rows = rows ++ fs.flatMap fun f => causeDivider :: f.rows := by
  induction fs generalizing rows with
  | nil => simp
  | cons f fs ih =>
    have hadd : addFinding rows f = rows ++ causeDivider :: f.rows := by
      simp [addFinding, h]
    rw [List.foldl_cons, hadd, ih (by simp), List.flatMap_cons, List.append_assoc]

theorem foldl_addFinding_nil (f : Finding) (fs : List Finding) :
    (f :: fs).foldl addFinding [] = f.rows ++ fs.flatMap fun g => causeDivider :: g.rows := by
  have hfirst : addFinding [] f = f.rows := by simp [addFinding]
  rw [List.foldl_cons, hfirst, foldl_addFinding fs (by simp [Finding.rows])]

namespace Report

theorem exists_chain_eq (r : Report) : ∃ fs, r.chain = r.finding :: fs := by
  cases r with
  | root f => exact ⟨[], rfl⟩
  | wrapping f cause => exact ⟨cause.chain, rfl⟩

theorem rows_ne_nil (r : Report) : r.rows ≠ [] := by
  obtain ⟨fs, hfs⟩ := r.exists_chain_eq
  unfold rows
  rw [hfs, foldl_addFinding_nil]
  simp [Finding.rows]

theorem rows_root (f : Finding) : (root f).rows = f.rows := by
  rw [rows, chain_root, foldl_addFinding_nil]
  simp

theorem rows_wrapping (f : Finding) (cause : Report) :
    (wrapping f cause).rows = f.rows ++ causeDivider :: cause.rows := by
  obtain ⟨fs, hfs⟩ := cause.exists_chain_eq
  rw [rows, rows, chain_wrapping, foldl_addFinding_nil, hfs, foldl_addFinding_nil]
  simp

/-- The rows of a report are the section of its finding and, below a divider, those of its cause. -/
theorem renderLines_eq (r : Report) (style : Style) :
    r.renderLines style = r.finding.sectionLines style ++
      match r.cause? with
      | none => []
      | some cause => dividerLine style :: cause.renderLines style := by
  cases r with
  | root f => simp [renderLines, rows_root, map_rows_finding, finding, cause?]
  | wrapping f cause =>
    simp [renderLines, rows_wrapping, map_rows_finding, row_causeDivider, finding, cause?]

theorem renderLines_ne_nil (r : Report) (style : Style) : r.renderLines style ≠ [] := by
  simp [renderLines, rows_ne_nil]

theorem sectionLines_bare (style : Style) (identifier title : String) (level : Level) :
    (Finding.bare identifier title level).sectionLines style =
      [headerLine style level identifier title] := rfl

theorem render_wrapping_bare (style : Style) (code title : String) (level : Level) (r : Report) :
    (wrapping (.bare code title level) r).render style =
      headerLine style level code title ++ "\n" ++ dividerLine style ++ "\n" ++ r.render style := by
  unfold render
  rw [renderLines_eq (wrapping _ r)]
  simp only [finding, cause?, sectionLines_bare, List.cons_append, List.nil_append]
  rw [String.intercalate_cons_cons, String.intercalate_cons_of_ne_nil (r.renderLines_ne_nil style)]
  simp only [String.append_assoc]

/-- One conversion, in whatever session, leads from a report to another. -/
def ConvertsTo (r r' : Report) : Prop :=
  ∃ identifier title s s', r.convert identifier title s = .ok r' s'

theorem render_of_convert {identifier : Variant} {title : Datum} {r wrapper : Report}
    {s s' : Session} (h : r.convert identifier title s = .ok wrapper s') :
    ∃ resolved t text, Session.identify identifier s = .ok resolved t ∧ title = .text text ∧
      ∀ style, wrapper.render style = headerLine style r.level resolved.code text ++ "\n" ++
        dividerLine style ++ "\n" ++ r.render style := by
  obtain ⟨resolved, t, hresolved, hwrap⟩ := wrap_of_convert h
  obtain ⟨text, -, -, htitle, rfl⟩ := wrap_eq_ok_iff.mp hwrap
  exact ⟨resolved, t, text, hresolved, htitle, fun style => render_wrapping_bare style _ _ _ _⟩

theorem render_suffix {r r' : Report} (h : Relation.ReflTransGen ConvertsTo r r') (style : Style) :
    ∃ front, r'.render style = front ++ r.render style := by
  induction h with
  | refl => exact ⟨"", (String.empty_append).symm⟩
  | tail _ hstep ih =>
    obtain ⟨front, hfront⟩ := ih
    obtain ⟨identifier, title, s, s', hconvert⟩ := hstep
    obtain ⟨resolved, t, text, -, -, hrender⟩ := render_of_convert hconvert
    rw [hrender style, hfront, ← String.append_assoc]
    exact ⟨_, rfl⟩

end Report

/-- The rendering of a report follows the recursive layout, whatever the length of its chain; a
conversion that succeeds puts its header and a divider on top of it, and however many conversions
follow, it stays at the end as it was. -/
theorem renderLines_recursive :
    (∀ (r : Report) (style : Style), r.renderLines style = r.finding.sectionLines style ++
      match r.cause? with
      | none => []
      | some cause => style.emphasize "caused by:" :: cause.renderLines style) ∧
    (∀ (r : Report) (style : Style), r.render style = "\n".intercalate (r.renderLines style)) ∧
    (∀ (identifier : Variant) (title : Datum) (r wrapper : Report) (s s' : Session),
      r.convert identifier title s = .ok wrapper s' →
        ∃ resolved t text, Session.identify identifier s = .ok resolved t ∧ title = .text text ∧
          ∀ style, wrapper.render style = headerLine style r.level resolved.code text ++ "\n" ++
            style.emphasize "caused by:" ++ "\n" ++ r.render style) ∧
    ∀ (r r' : Report) (style : Style), Relation.ReflTransGen Report.ConvertsTo r r' →
      ∃ front, r'.render style = front ++ r.render style := by
  refine ⟨Report.renderLines_eq, fun r style => rfl, ?_, ?_⟩
  · intro identifier title r wrapper s s' h
    exact Report.render_of_convert h
  · intro r r' style h
    exact Report.render_suffix h style

theorem renderLines_recursive_two_conversions :
    ∃ (once twice : Report) (s s' : Session),
      (Report.root (.bare "E1" "no such key" .error)).convert (.plain (.text "E2"))
        (.text "cannot load") Session.initial = .ok once s ∧
      once.convert (.plain (.text "E3")) (.text "cannot start") s = .ok twice s' ∧
      (∃ resolved t text, Session.identify (.plain (.text "E3")) s = .ok resolved t ∧
        Datum.text "cannot start" = .text text ∧ ∀ style, twice.render style =
          headerLine style once.level resolved.code text ++ "\n" ++ style.emphasize "caused by:" ++
            "\n" ++ once.render style) ∧
      ∃ front, twice.render .ansi =
        front ++ (Report.root (.bare "E1" "no such key" .error)).render .ansi := by
  let r : Report := .root (.bare "E1" "no such key" .error)
  let once : Report := .wrapping (.bare "E2" "cannot load" .error) r
  let twice : Report := .wrapping (.bare "E3" "cannot start" .error) once
  obtain ⟨s, hfirst⟩ : ∃ s, r.convert (.plain (.text "E2")) (.text "cannot load") Session.initial =
      .ok once s := ⟨_, rfl⟩
  obtain ⟨s', hsecond⟩ : ∃ s', once.convert (.plain (.text "E3")) (.text "cannot start") s =
      .ok twice s' := ⟨_, rfl⟩
  have hreached : Relation.ReflTransGen Report.ConvertsTo r twice :=
    .tail (.single ⟨_, _, _, _, hfirst⟩) ⟨_, _, _, _, hsecond⟩
  obtain ⟨-, -, hconvert, hchain⟩ := renderLines_recursive
  exact ⟨once, twice, s, s', hfirst, hsecond, hconvert _ _ _ _ _ _ hsecond,
    hchain r twice .ansi hreached⟩

end Diagnostics
