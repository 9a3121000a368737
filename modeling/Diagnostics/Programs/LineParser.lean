import Diagnostics.Builder
import Diagnostics.Emit
import Diagnostics.Source.FileTree

/-!
# A parser of lines

Each line of a file holds the word `help` and a number, unless it begins with a number sign. The
parser goes on after every problem, and collects the numbers and a report for each problem.
-/
namespace Diagnostics.Programs

inductive LineProblem where
  | notANumber | missingHelp | wrongCount
  deriving DecidableEq, Repr

namespace LineProblem

def all : List LineProblem := [.notANumber, .missingHelp, .wrongCount]

def name : LineProblem → String
  | .notANumber => "NOT_A_NUMBER"
  | .missingHelp => "MISSING_HELP"
  | .wrongCount => "INCORRECT_NUMBER_OF_ARGUMENTS"

def code : LineProblem → String
  | .notANumber => "P001"
  | .missingHelp => "P002"
  | .wrongCount => "P003"

def title : LineProblem → String
  | .notANumber => "Not a valid number"
  | .missingHelp => "Missing help"
  | .wrongCount => "Incorrect number of arguments"

def variant (type : VariantType) (p : LineProblem) : Variant :=
  .member type p.name (.text p.code)

end LineProblem

def wrongCountSite : Site := ⟨"parser.py", 44, 18⟩

/-- A line of a file, with its number. -/
structure InputLine where
  file : String
  number : Nat
  text : List Char

namespace InputLine

def excerpt (l : InputLine) (start stop : Nat) (note : Option String) : Except Fault Excerpt := do
  let e ← Excerpt.ofLine (String.ofList l.text) l.number
  (e.withFile (some l.file)).withHighlight ⟨l.number, start, stop, note, .error⟩

def report (l : InputLine) (type : VariantType) (p : LineProblem) (start stop : Nat)
    (note : Option String) (fill : Builder → Builder) : Action Report := do
  let b ← Builder.forVariant (p.variant type) (.text p.title)
  let e ← Session.ofExcept (l.excerpt start stop note)
  ((fill b).addExcerpt (.excerpt e)).build none .null

def wrongCountReport (l : InputLine) (type : VariantType) : Action Report :=
  l.report type .wrongCount 0 l.text.length (some "expected 2 words")
    fun b => b.here [wrongCountSite]

def missingHelpReport (l : InputLine) (type : VariantType) (keyword : List Char) : Action Report :=
  l.report type .missingHelp 0 keyword.length none
    fun b => b.withMessage (.text "A line should always start with 'help'")

/-- The column at which a word stands for the first time from a column on. -/
def columnFrom (l : InputLine) (word : List Char) (start : Nat) : Except Fault Nat :=
  match Text.firstIndexFrom? word start l.text with
  | some column => .ok column
  | none => .error .wordNotFound

def notANumberReport (l : InputLine) (type : VariantType) (keyword value : List Char)
    (fault : Text.NumeralFault) : Action Report := do
  let start ← Session.ofExcept (l.columnFrom value keyword.length)
  l.report type .notANumber start (start + value.length) none
    fun b => (b.withMessage (.text "After the 'help' a number should be written")).withHelp
      (.text (fault.message value))

def readWords (l : InputLine) (type : VariantType) (keyword value : List Char) :
    Action (List Int × List Report) := do
  let missing ←
    if keyword = "help".toList then pure []
    else do pure [← l.missingHelpReport type keyword]
  match Text.readNumeral value with
  | .ok n => return ([n], missing)
  | .error fault => return ([], missing ++ [← l.notANumberReport type keyword value fault])

def read (l : InputLine) (type : VariantType) : Action (List Int × List Report) :=
  if l.text.head? = some '#' then pure ([], [])
  else match Text.words l.text with
    | [keyword, value] => l.readWords type keyword value
    | _ => do return ([], [← l.wrongCountReport type])

end InputLine

/-- The numbers and the reports of the lines of a file from a number on. -/
def readLines (type : VariantType) (file : String) :
    Nat → List (List Char) → Action (List Int × List Report)
  | _, [] => pure ([], [])
  | number, text :: texts => do
    let (values, problems) ← (InputLine.mk file number text).read type
    let (moreValues, moreProblems) ← readLines type file (number + 1) texts
    return (values ++ moreValues, problems ++ moreProblems)

def defineLineProblems : Action VariantType := do
  let type ← Session.defineType "ParseError" "ParseError" "parser" (ancestorsFrom none []) true
  Session.register type none
  return type

/-- The numbers and the collected reports of a file. Excerpts show the last component of its
path. -/
def parseLines (type : VariantType) (path text : String) : Action (List Int × Collection) := do
  let all := Text.splitLines (Text.unifyNewlines text.toList)
  let (values, problems) ← readLines type (Path.ofText path).name 1 all
  Session.log .lineParser .info
    ("Parsed " ++ Text.natural values.length ++ " values with " ++
      Text.natural problems.length ++ " problems")
  return (values, ⟨problems⟩)

def sampleFile : String × String :=
  ("example_input_file.txt",
    "# Each line holds the word 'help' followed by a number\nhelp 12\nhelp 7 8\nhalp 3\n" ++
      "help four\nhelp 40\n")

/-- What is printed on a stream for a file: its numbers, or its problems if there are any. -/
def printLines (type : VariantType) (stream : Stream) (path text : String) : Action String := do
  let settings ← Session.startProgram
  let (values, problems) ← parseLines type path text
  if problems.isEmpty then
    return String.join (values.map fun n => Text.decimal n ++ "\n")
  else emit (.collection problems) stream (some settings)

end Diagnostics.Programs
