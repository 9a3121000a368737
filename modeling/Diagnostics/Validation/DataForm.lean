import Diagnostics.Validation.Report

/-!
# The data of a value

Every line, highlight, excerpt, site and report can be written as data, with the same names of
fields under which it is read. An excerpt holds its lines as pairs, and what can be computed from
the other fields is written beside them.
-/
namespace Diagnostics

def SourceLine.data (l : SourceLine) : Datum :=
  .list [.int l.number, .text l.text]

def Highlight.data (h : Highlight) : Datum :=
  .record [("line", .int h.line), ("start", .int h.start), ("end", .int h.stop),
    ("note", .ofOption h.note), ("level", .text h.level.word), ("width", .int h.width)]

def Excerpt.data (e : Excerpt) : Datum :=
  .record [("lines", .list (e.lines.map SourceLine.data)),
    ("highlights", .list (e.highlights.map Highlight.data)), ("file", .ofOption e.file),
    ("max", .int e.maxNumber)]

def Site.data (s : Site) : Datum :=
  .record [("file", .text s.file), ("line", .int s.line), ("column", .int s.column)]

def Finding.fields (f : Finding) : List (String × Datum) :=
  [("identifier", .text f.identifier), ("title", .text f.title), ("level", .text f.level.word),
    ("message", .ofOption f.message), ("help", .ofOption f.help), ("doc_url", .ofOption f.docUrl),
    ("definition_site", match f.site with
      | some s => s.data
      | none => .null),
    ("contexts", .list (f.excerpts.map Excerpt.data))]

def Report.data : Report → Datum
  | .root f => .record (f.fields ++ [("cause", .null)])
  | .wrapping f cause => .record (f.fields ++ [("cause", cause.data)])

end Diagnostics
