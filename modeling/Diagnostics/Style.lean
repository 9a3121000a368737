import Diagnostics.Fault
import Diagnostics.Keyed
import Diagnostics.Level

/-!
# Styles

A style says how emphasised text and text in a role are written. Plain style leaves all text
alone; ANSI style puts control sequences in front of it, the colour next to the text, and one reset
behind it. In both, empty text stays empty. Styles are taken from a shelf by name; a style that is
put there replaces the one of its name.
-/
namespace Diagnostics

/-- What a piece of text is in a rendered report. -/
inductive Role where
  | identifier | helpMarker | highlightMarker | error | warning | info | gutter | url | success
  deriving DecidableEq, Repr

namespace Role

def all : List Role :=
  [.identifier, .helpMarker, .highlightMarker, .error, .warning, .info, .gutter, .url, .success]

def word : Role → String
  | .identifier => "identifier"
  | .helpMarker => "help_marker"
  | .highlightMarker => "highlight_marker"
  | .error => "error"
  | .warning => "warning"
  | .info => "info"
  | .gutter => "gutter"
  | .url => "url"
  | .success => "success"

def ofWord? (s : String) : Option Role :=
  all.find? fun r => r.word = s

end Role

/-- The role of the word of a level, in a header or a summary. -/
def Level.labelRole : Level → Role
  | .error => .error
  | .warning => .warning
  | .info => .info

/-- The role of a highlight's marker and note. -/
def Level.markerRole : Level → Role
  | .error => .highlightMarker
  | .warning => .warning
  | .info => .info

structure Style where
  name : String
  emphasize : String → String
  color : Role → String → String

namespace Style

def plain : Style := ⟨"plain", id, fun _ => id⟩

def control (code : Nat) : String :=
  "\x1b[" ++ Text.natural code ++ "m"

/-- Text behind control sequences, the first one next to it, and in front of a reset. -/
def controlled (codes : List Nat) (text : String) : String :=
  if text = "" then ""
  else codes.foldl (fun t code => control code ++ t) text ++ control 0

def bold : Nat := 1

def underlined : Nat := 4

/-- The colour and then the further codes of a role. -/
def palette : Role → List Nat
  | .identifier => [36, bold]
  | .helpMarker => [34, bold]
  | .highlightMarker => [31, bold]
  | .error => [31, bold]
  | .warning => [33, bold]
  | .info => [34]
  | .gutter => [34]
  | .url => [34, underlined]
  | .success => [32]

def ansi : Style := ⟨"ansi", controlled [bold], fun r => controlled (palette r)⟩

@[simp] theorem plain_emphasize (s : String) : plain.emphasize s = s := rfl

@[simp] theorem plain_color (r : Role) (s : String) : plain.color r s = s := rfl

@[simp] theorem controlled_empty (codes : List Nat) : controlled codes "" = "" := by
  simp [controlled]

end Style

abbrev StyleShelf := Keyed String Style

namespace StyleShelf

def standard : StyleShelf := [("ansi", .ansi), ("plain", .plain)]

def register (shelf : StyleShelf) (style : Style) : StyleShelf :=
  Keyed.put style.name style shelf

def available (shelf : StyleShelf) : List String :=
  sortedNames (Keyed.keys shelf)

def get (shelf : StyleShelf) (name : String) : Except Fault Style :=
  match shelf.lookup name with
  | some style => .ok style
  | none => .error (.unsupportedStyle name shelf.available)

end StyleShelf

end Diagnostics
