import Diagnostics.Excerpt
import Diagnostics.Layout.Row

/-!
# Marker rows

The highlights of a line are drawn on one row of cells, from left to right of where they start.
Each draws its run of glyphs and then its note, one blank behind the run; what is drawn later
covers what was drawn before. Cells that nothing was drawn on are blank and have no role, and
neighbouring cells of one role make up one span.
-/
namespace Diagnostics

def Level.glyph : Level → Char
  | .error => '^'
  | .warning => '~'
  | .info => '-'

/-- A character on a marker row, in the role of what drew it. -/
structure Cell where
  char : Char
  role : Option Role
  deriving DecidableEq, Repr

namespace Cell

def blank : Cell := ⟨' ', none⟩

def paint (c : Cell) : Paint :=
  match c.role with
  | some r => .role r
  | none => .none

end Cell

/-- Characters in one role, drawn side by side from a column on. -/
structure Stroke where
  column : Nat
  chars : List Char
  role : Role
  deriving DecidableEq, Repr

def Stroke.cells (s : Stroke) : List Cell :=
  s.chars.map fun c => ⟨c, some s.role⟩

def Highlight.column (h : Highlight) : Nat := h.start.toNat

/-- The strokes of a highlight: its run of glyphs, and its note if there is any. -/
def Highlight.strokes (h : Highlight) : List Stroke :=
  let run : Stroke :=
    ⟨h.column, List.replicate h.width h.level.glyph, h.level.markerRole⟩
  match h.note with
  | none => [run]
  | some note =>
    if note = "" then [run]
    else [run, ⟨h.column + h.width, ' ' :: note.toList, h.level.markerRole⟩]

/-- Draws a stroke over a row of cells, which grows as far as it has to. -/
def draw (cells : List Cell) (s : Stroke) : List Cell :=
  let padded := cells ++ List.replicate (s.column - cells.length) .blank
  padded.take s.column ++ s.cells ++ padded.drop (s.column + s.chars.length)

def drawingOrder (hs : List Highlight) : List Highlight :=
  hs.mergeSort fun a b => decide (a.start ≤ b.start)

def markerCells (hs : List Highlight) : List Cell :=
  ((drawingOrder hs).flatMap Highlight.strokes).foldl draw []

def cellSpan : List Cell → Span
  | [] => .bare ""
  | c :: cs => ⟨c.paint, String.ofList (c.char :: cs.map Cell.char)⟩

/-- Cells as spans, each as long as its role lasts. -/
def cellSpans (cells : List Cell) : List Span :=
  (cells.splitBy fun a b => a.role == b.role).map cellSpan

end Diagnostics
