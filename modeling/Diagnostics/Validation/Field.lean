import Diagnostics.Datum
import Diagnostics.Validation.Checked

/-!
# Checking values and fields

Numbers are taken leniently: truth values, fractions without a remainder and numerals count as
integers. Text has to be text. A record may hold further fields, which are not looked at.
-/
namespace Diagnostics.Validation

abbrev Check (α : Type) := Datum → Checked α

/-- An integer, or what can be taken for one. -/
def integer : Check Int
  | .int n => .valid n
  | .bool b => .valid b.toNat
  | .fraction m places =>
    if m % Datum.scale places = 0 then .valid (m / Datum.scale places)
    else .issue .integerFractional
  | .text s =>
    match Text.readInteger? s.toList with
    | some n => .valid n
    | none => .issue .integerUnreadable
  | _ => .issue .integerExpected

def positive : Check Int := fun d =>
  (integer d).andThen fun n => if n < 1 then .issue .belowMinimum else .valid n

def text : Check String
  | .text s => .valid s
  | _ => .issue .textExpected

def textOrNull : Check (Option String)
  | .null => .valid none
  | .text s => .valid (some s)
  | _ => .issue .textExpected

def level : Check Level
  | .text s =>
    match Level.ofWord? s with
    | some l => .valid l
    | none => .issue .levelUnknown
  | _ => .issue .levelUnknown

def items {α : Type} (check : Check α) (first : Nat) : List Datum → Checked (List α)
  | [] => .valid []
  | d :: ds => List.cons <$> (check d).within (.index first) <*> items check (first + 1) ds

def sequence {α : Type} (check : Check α) : Check (List α)
  | .list ds => items check 0 ds
  | _ => .issue .sequenceExpected

def required {α : Type} (name : String) (check : Check α) (fields : List (String × Datum)) :
    Checked α :=
  match fields.lookup name with
  | some d => (check d).within (.field name)
  | none => .invalid [⟨[.field name], .missing⟩]

def optional {α : Type} (name : String) (default : α) (check : Check α)
    (fields : List (String × Datum)) : Checked α :=
  match fields.lookup name with
  | some d => (check d).within (.field name)
  | none => .valid default

end Diagnostics.Validation
