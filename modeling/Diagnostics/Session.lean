import Diagnostics.Identifier.Registry
import Diagnostics.Settings.Basic
import Diagnostics.Style

/-!
# Sessions

A session is all that may change while reports are made and printed: the providers, the styles, the
environment, the types defined so far, the journal of what was done, and whether a program has set
up its log. An action on a session keeps the changes it made before it failed.
-/
namespace Diagnostics

inductive Topic where
  | conversion | registry | links | styles | lineParser
  deriving DecidableEq, Repr

def Topic.name : Topic → String
  | .conversion => "custom_error.hierarchy"
  | .registry => "custom_error.identifiers.registry"
  | .links => "custom_error.identifiers.doclinks"
  | .styles => "custom_error.style.registry"
  | .lineParser => "custom_error.examples.parser"

inductive Weight where
  | debug | info | warning
  deriving DecidableEq, Repr

def Weight.word : Weight → String
  | .debug => "DEBUG"
  | .info => "INFO"
  | .warning => "WARNING"

structure LogEntry where
  topic : Topic
  weight : Weight
  text : String
  deriving DecidableEq, Repr

/-- All that may change while reports are made and printed. -/
structure Session where
  registry : Registry
  styles : StyleShelf
  environment : Environment
  typeCount : Nat
  journal : List LogEntry
  logSetUp : Bool

/-- An action on a session, which keeps its changes when it fails. -/
abbrev Action (α : Type) := EStateM Fault Session α

namespace Session

def initial : Session :=
  ⟨.empty, .standard, .empty, VariantType.providedCount, [], false⟩

def log (topic : Topic) (weight : Weight) (text : String) : Action Unit :=
  modify fun s => { s with journal := s.journal ++ [⟨topic, weight, text⟩] }

def takeJournal : Action (List LogEntry) :=
  modifyGet fun s => (s.journal, { s with journal := [] })

def ofExcept {α : Type} : Except Fault α → Action α
  | .ok a => pure a
  | .error fault => throw fault

def onRegistry {α : Type} (x : EStateM Fault Registry α) : Action α := fun s =>
  match x s.registry with
  | .ok a registry => .ok a { s with registry }
  | .error fault registry => .error fault { s with registry }

/-- Defines a type, with a number that no other type has. -/
def defineType (name qualifiedName moduleName : String) (ancestors : List Nat)
    (isEnumeration : Bool) : Action VariantType :=
  modifyGet fun s =>
    (⟨s.typeCount, name, qualifiedName, moduleName, ancestors, isEnumeration⟩,
      { s with typeCount := s.typeCount + 1 })

/-- Registers a provider for a type; an enumeration provides for itself if none is given. -/
def register (type : VariantType) (provider : Option Provider) : Action Unit := do
  let p ← ofExcept (Registry.providerOr type provider)
  modify fun s => { s with registry := s.registry.add type p }
  log .registry .debug ("Registered " ++ p.kindName ++ " for " ++ type.qualifiedName)

def available : Action (List String) :=
  return (← get).registry.available

def providerFor (v : Variant) : Action Provider := do
  ofExcept ((← get).registry.providerFor v)

def resetProviders : Action Unit :=
  modify fun s => { s with registry := s.registry.clear }

def resolve (v : Variant) : Action Resolved := do
  let (r, fresh) ← onRegistry (Registry.resolve v)
  if fresh then
    log .registry .debug ("Resolved " ++ v.literal ++ " -> " ++ r.code)
  return r

/-- The identifier that is meant: a text is its own code, any other variant is resolved. -/
def identify (v : Variant) : Action Resolved :=
  match v.text? with
  | some code => pure ⟨code, none⟩
  | none => resolve v

/-- Asks a provider directly, past the registry. -/
def askProvider (p : Provider) (v : Variant) : Action Resolved :=
  onRegistry (Registry.ask p v)

def registerStyle (style : Style) : Action Unit :=
  modify fun s => { s with styles := s.styles.register style }

def style (name : String) : Action Style := do
  ofExcept ((← get).styles.get name)

def clearStyles : Action Unit :=
  modify fun s => { s with styles := [] }

def setVariable (name : String) (value : Option String) : Action Unit :=
  modify fun s => { s with environment := s.environment.set name value }

def setEnvironmentFile (text : Option String) : Action Unit :=
  modify fun s => { s with environment := { s.environment with file := text } }

def loadSettings (keywords : List (String × Datum)) : Action Settings := do
  ofExcept (Settings.load keywords (← get).environment)

def settingsOr : Option Settings → Action Settings
  | some settings => pure settings
  | none => loadSettings []

/-- Sets up the log for a level, unless that was done before. The log is there even if the level is
refused. -/
def setUpLog (settings : Settings) : Action Unit := do
  let before := (← get).logSetUp
  modify fun s => { s with logSetUp := true }
  ofExcept (if before || settings.namesLogLevel then .ok () else .error .unknownLogLevel)

/-- What a program does first. -/
def startProgram : Action Settings := do
  let settings ← loadSettings []
  setUpLog settings
  return settings

def linkerFor (name : String) (installed : List (String × String)) (settings : Option Settings) :
    Action DocLinker := do
  let settings ← settingsOr settings
  if name = "" then throw .unnamedDistribution
  match installedVersion? installed name with
  | some version => return ⟨name, version, settings.docsTemplate⟩
  | none =>
    log .links .warning
      ("Distribution " ++ Text.quoted name ++ " is not installed; linking to 'latest' docs")
    return ⟨name, latestVersion, settings.docsTemplate⟩

end Session

end Diagnostics
