import Diagnostics.Render
import Diagnostics.Session

/-!
# Printing

What is printed is rendered in the style of the settings if colour is wanted, and plainly if not.
Whether it is wanted is decided by the settings, then by the environment, and at last by the stream.
-/
namespace Diagnostics

/-- A stream that text is printed on, as far as colour is concerned. -/
inductive Stream where
  | terminal
  /-- A stream that says that it is no terminal. -/
  | file
  /-- A stream that cannot be asked, or none. -/
  | unknown
  deriving DecidableEq, Repr

def colorEnabled (settings : Settings) (env : Environment) (stream : Stream) : Bool :=
  match settings.color with
  | .never => false
  | .always => true
  | .auto =>
    if (env.get? "NO_COLOR").isSome || env.get? "TERM" == some "dumb" then false
    else if (env.get? "FORCE_COLOR").isSome then true
    else stream == .terminal

def styleName (settings : Settings) (env : Environment) (stream : Stream) : String :=
  if colorEnabled settings env stream then settings.style else Style.plain.name

def selectStyle (settings : Option Settings) (stream : Stream) : Action Style := do
  let settings ← Session.settingsOr settings
  let name := styleName settings (← get).environment stream
  Session.log .styles .debug
    ("Selected style " ++ Text.quoted name ++ " (color=" ++ settings.color.word ++ ")")
  Session.style name

/-- The text that is printed on a stream for a report or a collection. -/
def emit (p : Printable) (stream : Stream) (settings : Option Settings) : Action String := do
  let style ← selectStyle settings stream
  return p.render style ++ "\n"

end Diagnostics
