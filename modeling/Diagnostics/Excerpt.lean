import Diagnostics.Fault
import Diagnostics.Level

/-!
# Excerpts

An excerpt holds numbered lines of a source, in the order given, and highlights of column ranges
on them. Columns count characters from zero and ranges are half open. A highlight fits when its
line is in the excerpt and its range lies within every line of that number; `Excerpt.make` accepts
exactly the excerpts whose highlights all fit, and every other way to make one goes through it.
-/
namespace Diagnostics

structure SourceLine where
  number : Int
  text : String
  deriving DecidableEq, Repr

/-- The columns from `start` up to `stop` of a line, perhaps with a note. -/
structure Highlight where
  line : Int
  start : Int
  stop : Int
  note : Option String
  level : Level
  deriving DecidableEq, Repr

structure Excerpt where
  lines : List SourceLine
  highlights : List Highlight
  file : Option String
  deriving DecidableEq, Repr

def SourceLine.make (number : Int) (text : String) : Except Fault SourceLine :=
  if number < 1 then .error (.invalid [⟨[.field "number"], .belowMinimum⟩])
  else .ok ⟨number, text⟩

/-- The number of columns that are marked; an empty range still gets one. -/
def Highlight.width (h : Highlight) : Nat :=
  max (h.stop - h.start).toNat 1

def lengthsOf (number : Int) (lines : List SourceLine) : List Nat :=
  (lines.filter fun l => l.number = number).map (·.text.length)

/-- Why a highlight does not fit on some lines, if it does not. -/
def Highlight.misfit? (h : Highlight) (lines : List SourceLine) : Option Misfit :=
  match lengthsOf h.line lines with
  | [] => some .lineMissing
  | n :: ns =>
    let shortest := ns.foldl min n
    if h.start < 0 then some .startNegative
    else if h.stop < h.start then some .startAfterEnd
    else if (shortest : Int) < h.stop then some (.endPastLine shortest)
    else none

def firstMisfit? (lines : List SourceLine) (highlights : List Highlight) : Option Fault :=
  highlights.findSome? fun h => (h.misfit? lines).map (.highlight h.line h.start h.stop)

namespace Excerpt

def make (lines : List SourceLine) (highlights : List Highlight) (file : Option String) :
    Except Fault Excerpt :=
  match firstMisfit? lines highlights with
  | some fault => .error fault
  | none => .ok ⟨lines, highlights, file⟩

def numbered (first : Int) : List String → Except Fault (List SourceLine)
  | [] => .ok []
  | text :: texts => do
    let line ← SourceLine.make first text
    let lines ← numbered (first + 1) texts
    return line :: lines

def ofLines (texts : List String) (first : Int) : Except Fault Excerpt := do
  make (← numbered first texts) [] none

def ofLine (text : String) (number : Int) : Except Fault Excerpt := do
  make [← SourceLine.make number text] [] none

def withFile (e : Excerpt) (file : Option String) : Excerpt :=
  { e with file }

def withHighlights (e : Excerpt) (highlights : List Highlight) : Except Fault Excerpt :=
  make e.lines (e.highlights ++ highlights) e.file

def withHighlight (e : Excerpt) (h : Highlight) : Except Fault Excerpt :=
  e.withHighlights [h]

/-- The largest line number, zero if there are no lines. -/
def maxNumber (e : Excerpt) : Int :=
  match e.lines with
  | [] => 0
  | l :: ls => ls.foldl (fun n l => max n l.number) l.number

def highlightsOn (e : Excerpt) (number : Int) : List Highlight :=
  e.highlights.filter fun h => h.line = number

theorem make_eq_ok {lines : List SourceLine} {highlights : List Highlight} {file : Option String}
    {e : Excerpt} (h : make lines highlights file = .ok e) : e = ⟨lines, highlights, file⟩ := by
  unfold make at h
  split at h
  · cases h
  · exact (Except.ok.inj h).symm

end Excerpt

end Diagnostics
