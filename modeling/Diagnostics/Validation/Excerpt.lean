import Diagnostics.Validation.Field

/-!
# Checking excerpts

A line is a record, or a pair of a number and a text. Pairs are made into lines first, in order,
and the first bad one ends the check of the lines with its own issues; only then are the other
lines checked, all of them. Whether the highlights fit is looked at once all fields are valid.
-/
namespace Diagnostics.Validation

def lineFields (fields : List (String × Datum)) : Checked SourceLine :=
  SourceLine.mk <$> required "number" positive fields <*> required "text" text fields

def sourceLine : Check SourceLine
  | .line l => .valid l
  | .record fields => lineFields fields
  | _ => .issue .recordExpected

def linePair (number text : Datum) : Checked SourceLine :=
  lineFields [("number", number), ("text", text)]

def highlight : Check Highlight
  | .highlight h => .valid h
  | .record fields =>
    Highlight.mk <$> required "line" integer fields <*> required "start" integer fields
      <*> required "end" integer fields <*> optional "note" none textOrNull fields
      <*> optional "level" .error level fields
  | _ => .issue .recordExpected

/-- Makes the pairs among some items into lines, up to the first bad one. -/
def joinPairs : List Datum → Checked (List Datum)
  | [] => .valid []
  | .list [number, text] :: ds =>
    (linePair number text).andThen fun l => (joinPairs ds).map (.line l :: ·)
  | d :: ds => (joinPairs ds).map (d :: ·)

/-- The lines of an excerpt. A record stands for the sequence of its names. -/
def excerptLines : Check (List SourceLine)
  | .list ds => (joinPairs ds).andThen (items sourceLine 0)
  | .record fields => items sourceLine 0 (fields.map fun f => .text f.1)
  | _ => .issue .sequenceExpected

def excerptFields (fields : List (String × Datum)) : Checked Excerpt :=
  (Prod.mk <$> optional "lines" [] excerptLines fields
    <*> (Prod.mk <$> optional "highlights" [] (sequence highlight) fields
      <*> optional "file" none textOrNull fields)).andThen
    fun (lines, highlights, file) => .ofExcept (Excerpt.make lines highlights file)

def excerpt : Check Excerpt
  | .excerpt e => .valid e
  | .record fields => excerptFields fields
  | _ => .issue .recordExpected

def lineFrom (number text : Datum) : Except Fault Excerpt := do
  Excerpt.make [← (linePair number text).toExcept] [] none

/-- Consecutive lines with some texts, numbered from `first`, up to the first bad one. -/
def consecutiveLines (first : Int) : List Datum → Except Fault (List SourceLine)
  | [] => .ok []
  | text :: texts => do
    let line ← (linePair (.int first) text).toExcept
    let lines ← consecutiveLines (first + 1) texts
    return line :: lines

def linesFrom (first : Int) (texts : List Datum) : Except Fault Excerpt := do
  Excerpt.make (← consecutiveLines first texts) [] none

end Diagnostics.Validation
