import Diagnostics.Settings.EnvFile
import Diagnostics.Identifier.DocLink
import Diagnostics.Validation.Field

/-!
# Settings

Settings are given by keyword, by the environment or by an environment file, in this order of
precedence, and otherwise have defaults. Names are looked up without regard to case.
-/
namespace Diagnostics

/-- Whether output is coloured: as it fits the stream, in any case, or not at all. -/
inductive ColorChoice where
  | auto | always | never
  deriving DecidableEq, Repr

def ColorChoice.word : ColorChoice → String
  | .auto => "auto"
  | .always => "always"
  | .never => "never"

def ColorChoice.ofWord? (s : String) : Option ColorChoice :=
  [auto, always, never].find? fun c => c.word = s

structure Settings where
  logLevel : String
  color : ColorChoice
  style : String
  docsTemplate : String
  deriving DecidableEq, Repr

/-- The variables that are set, and the text of the environment file if there is one. -/
structure Environment where
  bindings : Keyed String String
  file : Option String
  deriving DecidableEq, Repr

namespace Environment

def empty : Environment := ⟨[], none⟩

def set (env : Environment) (name : String) (value : Option String) : Environment :=
  { env with bindings := match value with
      | some v => env.bindings.put name v
      | none => env.bindings.remove name }

def get? (env : Environment) (name : String) : Option String :=
  env.bindings.lookup name

end Environment

def lowered (name : String) : String :=
  String.ofList (name.toList.map Char.toLower)

/-- The capital of a character as far as it is a letter from A to Z, which the capitals of the
dotless i and of the long s are too. -/
def capital (c : Char) : Char :=
  if c = '\u0131' then 'I' else if c = '\u017f' then 'S' else c.toUpper

/-- The value under the last of the keys that are a name but for case. -/
def lookupIgnoringCase {α : Type} (name : String) (entries : Keyed String α) : Option α :=
  ((entries.filter fun e => lowered e.1 = lowered name).getLast?).map Prod.snd

namespace Settings

def names : List String := ["log_level", "color", "style", "docs_url_template"]

def logLevels : List String :=
  ["CRITICAL", "FATAL", "ERROR", "WARN", "WARNING", "INFO", "DEBUG", "NOTSET"]

/-- Whether the log level is one, without regard to case. -/
def namesLogLevel (settings : Settings) : Bool :=
  logLevels.contains (String.ofList (settings.logLevel.toList.map capital))

def variableName (name : String) : String := "CUSTOM_ERROR_" ++ name

/-- The value that the environment gives to a setting, before its file. -/
def fromEnvironment (env : Environment) (name : String) : Option String :=
  match lookupIgnoringCase (variableName name) env.bindings with
  | some v => some v
  | none =>
    (env.file.bind fun text => lookupIgnoringCase (variableName name) (EnvFile.parse text)).join

def given (keywords : List (String × Datum)) (env : Environment) (name : String) :
    Option Datum :=
  match lookupIgnoringCase name keywords with
  | some d => some d
  | none => (fromEnvironment env name).map .text

def colorChoice : Validation.Check ColorChoice
  | .text s =>
    match ColorChoice.ofWord? s with
    | some c => .valid c
    | none => .issue .choiceUnknown
  | _ => .issue .choiceUnknown

def check (fields : List (String × Datum)) : Checked Settings :=
  Settings.mk <$> Validation.optional "log_level" "WARNING" Validation.text fields
    <*> Validation.optional "color" .auto colorChoice fields
    <*> Validation.optional "style" "ansi" Validation.text fields
    <*> Validation.optional "docs_url_template" DocLinker.defaultTemplate Validation.text fields

def load (keywords : List (String × Datum)) (env : Environment) : Except Fault Settings :=
  (check (names.filterMap fun name => (given keywords env name).map (name, ·))).toExcept

end Settings

end Diagnostics
