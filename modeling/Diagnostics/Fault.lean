import Diagnostics.Text.Numeral
import Diagnostics.Text.Template

/-!
# Faults

Everything that can go wrong, as causes. `Fault.message?` holds the wording of the faults that are
reported in words; the others are told apart by their kind alone. Data that does not have the
expected form is refused with all its issues at once, each with the path to the offending part.
-/
namespace Diagnostics

/-- One step on the way to a part of some data. -/
inductive Step where
  | field (name : String)
  | index (i : Nat)
  deriving DecidableEq, Repr

inductive IssueKind where
  | missing
  | integerExpected | integerUnreadable | integerFractional | belowMinimum
  | textExpected
  | levelUnknown
  | sequenceExpected
  | recordExpected
  | choiceUnknown
  | frozen
  deriving DecidableEq, Repr

def IssueKind.tag : IssueKind → String
  | .missing => "missing"
  | .integerExpected => "int_type"
  | .integerUnreadable => "int_parsing"
  | .integerFractional => "int_from_float"
  | .belowMinimum => "greater_than_equal"
  | .textExpected => "string_type"
  | .levelUnknown => "enum"
  | .sequenceExpected => "tuple_type"
  | .recordExpected => "model_type"
  | .choiceUnknown => "literal_error"
  | .frozen => "frozen_instance"

structure Issue where
  path : List Step
  kind : IssueKind
  deriving DecidableEq, Repr

inductive Misfit where
  | lineMissing
  | startNegative
  | startAfterEnd
  | endPastLine (columns : Nat)
  deriving DecidableEq, Repr

def Misfit.reason : Misfit → String
  | .lineMissing => "line is not part of the block"
  | .startNegative => "start column is negative"
  | .startAfterEnd => "start column is after end column"
  | .endPastLine columns =>
    "end column is past the end of the line (" ++ Text.natural columns ++ " columns)"

inductive IdentityField where
  | identifier | title
  deriving DecidableEq, Repr

def IdentityField.word : IdentityField → String
  | .identifier => "identifier"
  | .title => "title"

inductive FileProblem where
  | missing | isDirectory | notDirectory | nameTooLong
  deriving DecidableEq, Repr

inductive SourceProblem where
  | unknown
  | invalidRange
  | tooShort (count : Nat)
  | file (problem : FileProblem)
  deriving DecidableEq, Repr

def SourceProblem.reason : SourceProblem → String
  | .unknown => "unknown source"
  | .invalidRange => "invalid line range"
  | .tooShort count => "source has only " ++ Text.natural count ++ " lines"
  | .file .missing => "No such file or directory"
  | .file .isDirectory => "Is a directory"
  | .file .notDirectory => "Not a directory"
  | .file .nameTooLong => "File name too long"

/-- Everything that can go wrong. -/
inductive Fault where
  | highlight (line start stop : Int) (misfit : Misfit)
  | missingField (field : IdentityField)
  | unknownVariant (typeName : String) (available : List String)
  | unsupportedStyle (name : String) (available : List String)
  | unavailable (source : String) (first last : Int) (problem : SourceProblem)
  /-- A type that is not an enumeration is registered without a provider. -/
  | notEnumeration (typeName : String)
  | invalid (issues : List Issue)
  /-- A variant can be changed and hence not be remembered. -/
  | unhashable
  | template (fault : Text.Template.Fault)
  | noSuchReport
  | noSuchMember
  /-- The bytes of a file are no text in the encoding. -/
  | undecodable
  | nulInPath
  | unnamedDistribution
  | unknownLogLevel
  /-- A word is searched for in a line that does not have it. -/
  | wordNotFound
  /-- A text that is no numeral is the value of a member of an enumeration of integers. -/
  | unreadableMember
  /-- A value of another kind is the value of a member of an enumeration of integers or texts. -/
  | unsuitedMember
  /-- A value that never changes was assigned to. -/
  | frozen
  deriving DecidableEq, Repr

def Fault.frozenField (field : String) : Fault :=
  .invalid [⟨[.field field], .frozen⟩]

def commaSeparated (names : List String) : String :=
  ", ".intercalate names

def Fault.message? : Fault → Option String
  | .highlight line start stop misfit =>
    some ("Invalid highlight on line " ++ Text.decimal line ++ " [" ++ Text.decimal start ++ ", " ++
      Text.decimal stop ++ "): " ++ misfit.reason)
  | .missingField field => some ("Report is missing required field '" ++ field.word ++ "'")
  | .unknownVariant typeName available =>
    some ("No identifier provider for " ++ typeName ++ ". Registered: " ++
      (if commaSeparated available = "" then "(none)" else commaSeparated available))
  | .unsupportedStyle name available =>
    some ("Unsupported style '" ++ name ++ "'. Available: " ++ commaSeparated available)
  | .unavailable source first last problem =>
    some ("Cannot read lines " ++ Text.decimal first ++ "-" ++ Text.decimal last ++ " of " ++
      source ++ ": " ++ problem.reason)
  | .notEnumeration typeName =>
    some (typeName ++ " is not an Enum; pass a provider explicitly")
  | _ => none

end Diagnostics
