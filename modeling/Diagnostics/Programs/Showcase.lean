import Diagnostics.Builder
import Diagnostics.Conversion
import Diagnostics.Emit

/-!
# Showcases

Two programs that print some reports: one with an excerpt, a help text and a link each, and one
with reports of two enumerations under the members of a third.
-/
namespace Diagnostics.Programs

def defineEnumeration (name : String) (members : List (String × Datum)) : Action Enumeration := do
  let type ← Session.defineType name name name (ancestorsFrom none []) true
  let e ← Session.ofExcept (Enumeration.define type members)
  Session.register type none
  return e

def memberOf (e : Enumeration) (name : String) : Action Variant :=
  match e.member? name with
  | some v => pure v
  | none => throw .noSuchMember

def unreadableNumber (e : Enumeration) : Action Report := do
  let b ← Builder.forVariant (← memberOf e "PARSE_ERROR") (.text "could not parse number")
  let shown ← Session.ofExcept
    (Excerpt.ofLine (Text.NumeralFault.malformed.message ['o', 'o', 'p', 's']) 1)
  ((b.withMessage (.text "I did really expect to parse it as an integer.")).addExcerpt
    (.excerpt shown)).build none .null

def divisionByZero (e : Enumeration) : Action Report := do
  let b ← Builder.forVariant (← memberOf e "DIVIDE_BY_ZERO") (.text "division by zero")
  ((b.withHelp (.text "Divide by 0 is mathematically undefined so it cannot be completed.")
    ).withDocUrl (.text "https://www.mathsisfun.com/numbers/dividing-by-zero.html")).build none .null

def declaration : Except Fault Excerpt := do
  let e ← Excerpt.ofLines ["import math", "#[deny(overflow)]", ""] 5
  e.withHighlight ⟨6, 7, 15, some "overflow deny is set here", .info⟩

def overflowingLines : Except Fault Excerpt := do
  let e ← Excerpt.ofLines ["def calc(test):", "    n = 123", "    x = n * test", "    print(x)"] 121
  let e ← e.withHighlight ⟨123, 8, 16, some "overflow happened here", .error⟩
  let e ← e.withHighlight ⟨122, 4, 5, some "'n' is small", .info⟩
  e.withHighlight ⟨121, 9, 13, some "'test' is unconstrained", .info⟩

def integerOverflow (e : Enumeration) : Action Report := do
  let declaration ← Session.ofExcept declaration
  let usage ← Session.ofExcept overflowingLines
  let b ← Builder.forVariant (← memberOf e "INTEGER_OVERFLOW") (.text "integer overflow")
  (((b.here [⟨"simple.py", 65, 10⟩]).addExcerpt (.excerpt declaration)).addExcerpt
    (.excerpt usage)).build none .null

def defineSimpleErrors : Action Enumeration :=
  defineEnumeration "ErrorType" [("PARSE_ERROR", .text "E0001"),
    ("INTEGER_OVERFLOW", .text "E0002"), ("DIVIDE_BY_ZERO", .text "E0003")]

def printSimpleErrors (e : Enumeration) (stream : Stream) : Action String := do
  let settings ← Session.startProgram
  let unreadable ← emit (.report (← unreadableNumber e)) stream (some settings)
  let division ← emit (.report (← divisionByZero e)) stream (some settings)
  let overflow ← emit (.report (← integerOverflow e)) stream (some settings)
  return unreadable ++ division ++ overflow

/-- The errors of two subsystems, and of the system that they are part of. -/
structure SystemErrors where
  first : Enumeration
  second : Enumeration
  system : Enumeration

def defineSystemErrors : Action SystemErrors := do
  let first ← defineEnumeration "Type1" [("ERROR1", .int 1)]
  let second ← defineEnumeration "Type2" [("ERROR1", .int 1)]
  let system ← defineEnumeration "SuperError" [("TYPE1", .text "S001"), ("TYPE2", .text "S002")]
  return ⟨first, second, system⟩

def subsystemFailure (part system : Enumeration) (member title systemTitle : String) :
    Action Report := do
  let b ← Builder.forVariant (← memberOf part "ERROR1") (.text title)
  let r ← b.build none .null
  r.convert (← memberOf system member) (.text systemTitle)

def printSystemErrors (e : SystemErrors) (stream : Stream) : Action String := do
  let settings ← Session.startProgram
  let r ← subsystemFailure e.first e.system "TYPE1" "One error" "first subsystem failed"
  let first ← emit (.report r) stream (some settings)
  let r ← subsystemFailure e.second e.system "TYPE2" "Another error" "second subsystem failed"
  let second ← emit (.report r) stream (some settings)
  return first ++ second

end Diagnostics.Programs
