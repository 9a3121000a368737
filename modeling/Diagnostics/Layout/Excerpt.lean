import Diagnostics.Layout.Marker

/-!
# Layout of excerpts

An excerpt is laid out behind a gutter as wide as its largest line number: a row with the place if
a file is known, and for each line, in the order given, a row with its number and text and, if it
has highlights, one marker row right below. An example is

     --> script.txt:4:9
    4 | let x =
      |         ^ expected expression
-/
namespace Diagnostics

def blanks (n : Nat) : String :=
  String.ofList (List.replicate n ' ')

def padStart (width : Nat) (s : String) : String :=
  blanks (width - s.length) ++ s

namespace Excerpt

/-- The number of digits of the largest line number, at least one. -/
def gutterWidth (e : Excerpt) : Nat :=
  if e.lines.isEmpty then 1 else (Text.decimal e.maxNumber).length

/-- The place that an excerpt is about: its file, and the position of its highlight if it has a
single one. -/
def place (e : Excerpt) (file : String) : String :=
  match e.highlights with
  | [h] => file ++ ":" ++ Text.decimal h.line ++ ":" ++ Text.decimal (h.start + 1)
  | _ => file

def placeRow (e : Excerpt) (file : String) : Row :=
  .ofSpans [.bare (blanks e.gutterWidth), .inRole .gutter "-->", .bare (" " ++ e.place file)]

def lineRow (width : Nat) (l : SourceLine) : Row :=
  .ofSpans ([.inRole .gutter (padStart width (Text.decimal l.number)), .bare " ",
    .inRole .gutter "|"] ++ if l.text = "" then [] else [.bare (" " ++ l.text)])

def markerRow (width : Nat) (hs : List Highlight) : Row :=
  ⟨[.bare (blanks width ++ " "), .inRole .gutter "|", .bare " "] ++ cellSpans (markerCells hs), true⟩

/-- The rows of a line: itself, and the marker row if it has highlights. -/
def rowsOf (e : Excerpt) (l : SourceLine) : List Row :=
  let hs := e.highlightsOn l.number
  lineRow e.gutterWidth l :: if hs.isEmpty then [] else [markerRow e.gutterWidth hs]

def rows (e : Excerpt) : List Row :=
  (match e.file with
    | some file => [e.placeRow file]
    | none => []) ++ e.lines.flatMap e.rowsOf

def layout (e : Excerpt) (style : Style) : List String :=
  e.rows.map style.row

end Excerpt

end Diagnostics
