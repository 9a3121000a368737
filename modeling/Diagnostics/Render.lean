import Diagnostics.Collection
import Diagnostics.Layout.Excerpt

/-!
# Rendering

A report is rendered as rows: a header, then whatever its finding says, and then its cause in the
same way below a divider, down to the root cause. A collection is rendered as its reports, apart by
blank lines, and a summary.
-/
namespace Diagnostics

def Finding.header (f : Finding) : Row :=
  .ofSpans [.inRole f.level.labelRole f.level.word, .bare "[", .inRole .identifier f.identifier,
    .bare "]: ", ⟨.emphasis, f.title⟩]

/-- A row for text, if there is any. -/
def rowOf (text : Option String) (row : String → Row) : List Row :=
  match text with
  | none => []
  | some s => if s = "" then [] else [row s]

def Site.row (s : Site) : Row :=
  .ofSpans [.bare "  ", .inRole .gutter "=", .bare (" defined at " ++ s.text)]

def Finding.rows (f : Finding) : List Row :=
  f.header :: (f.site.map Site.row).toList
    ++ rowOf f.message (fun s => .ofSpans [.bare s])
    ++ f.excerpts.flatMap Excerpt.rows
    ++ rowOf f.help (fun s => .ofSpans [.inRole .helpMarker "help", .bare (": " ++ s)])
    ++ rowOf f.docUrl (fun s =>
      .ofSpans [.inRole .helpMarker "url", .bare ": ", .inRole .url s])

def causeDivider : Row :=
  .ofSpans [⟨.emphasis, "caused by:"⟩]

/-- Rows followed by those of a finding, below a divider unless they are the first. -/
def addFinding (rows : List Row) (f : Finding) : List Row :=
  (if rows.isEmpty then rows else rows ++ [causeDivider]) ++ f.rows

namespace Report

def rows (r : Report) : List Row :=
  r.chain.foldl addFinding []

def renderLines (r : Report) (style : Style) : List String :=
  r.rows.map style.row

def render (r : Report) (style : Style) : String :=
  "\n".intercalate (r.renderLines style)

end Report

namespace Collection

/-- The spans of the summary, one for each level that occurs. -/
def counts (c : Collection) : List Span :=
  (Level.all.filter fun l => c.count l ≠ 0).map fun l =>
    .inRole l.labelRole (l.counted (c.count l))

def summaryRow (c : Collection) : Row :=
  if c.isEmpty then .ofSpans [.inRole .success "no messages!"]
  else .ofSpans (.bare "encountered: " :: c.counts.intersperse (.bare ", "))

def summary (c : Collection) (style : Style) : String :=
  style.row c.summaryRow

def render (c : Collection) (style : Style) : String :=
  "\n\n".intercalate (c.reports.map (·.render style) ++ [c.summary style])

end Collection

inductive Printable where
  | report (r : Report)
  | collection (c : Collection)
  deriving DecidableEq, Repr

def Printable.render : Printable → Style → String
  | .report r => r.render
  | .collection c => c.render

def Printable.text (p : Printable) : String := p.render .plain

end Diagnostics
