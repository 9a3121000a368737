import Diagnostics.Datum
import Diagnostics.Fault
import Diagnostics.Keyed

/-!
# Variants

A variant is what a program has in hand when it reports an error: a member of an enumeration, an
object of a class, or a plain value. Types are told apart by a number, so that a type defined again
under the same name is another type. The lineage of a type is itself, the types it is derived from,
nearest first, and the type of everything.
-/
namespace Diagnostics

structure VariantType where
  id : Nat
  name : String
  qualifiedName : String
  moduleName : String
  ancestors : List Nat
  isEnumeration : Bool
  deriving DecidableEq, Repr

namespace VariantType

/-- The type and those it is derived from, nearest first. -/
def lineage (t : VariantType) : List Nat := t.id :: t.ancestors

/-- A type that is always there. -/
def provided (id : Nat) (name : String) (ancestors : List Nat) : VariantType :=
  ⟨id, name, name, "builtins", ancestors, false⟩

def object : VariantType := provided 0 "object" []

def text : VariantType := provided 1 "str" [0]

def integer : VariantType := provided 2 "int" [0]

def truth : VariantType := provided 3 "bool" [2, 0]

def nothing : VariantType := provided 4 "NoneType" [0]

def sequence : VariantType := provided 5 "list" [0]

def record : VariantType := provided 6 "dict" [0]

def fraction : VariantType := provided 7 "float" [0]

def allProvided : List VariantType :=
  [object, text, integer, truth, nothing, sequence, record, fraction]

def providedCount : Nat := allProvided.length

def isText (t : VariantType) : Bool := t.lineage.contains text.id

def isInteger (t : VariantType) : Bool := t.lineage.contains integer.id

end VariantType

inductive EnumerationKind where
  | plain | integer | text
  deriving DecidableEq, Repr

/-- The types that a type is derived from, given its base. -/
def ancestorsFrom (base : Option VariantType) (otherwise : List Nat) : List Nat :=
  match base with
  | some b => b.lineage
  | none => otherwise ++ [VariantType.object.id]

def EnumerationKind.ancestors : EnumerationKind → List Nat
  | .plain => []
  | .integer => [VariantType.integer.id]
  | .text => [VariantType.text.id]

/-- What a program has in hand when it reports an error. -/
inductive Variant where
  | member (type : VariantType) (name : String) (value : Datum)
  | object (type : VariantType) (text : String)
  | plain (value : Datum)
  deriving Repr, Inhabited

inductive KeyContent where
  | member (name : String)
  | object (text : String)
  | text (s : String)
  | int (n : Int)
  | bool (b : Bool)
  | nothing
  | fraction (mantissa : Int) (places : Nat)
  deriving DecidableEq, Repr

structure VariantKey where
  type : Nat
  content : KeyContent
  deriving DecidableEq, Repr

namespace Variant

def typeOfValue : Datum → VariantType
  | .null => .nothing
  | .bool _ => .truth
  | .int _ => .integer
  | .fraction _ _ => .fraction
  | .text _ => .text
  | .list _ => .sequence
  | .record _ => .record
  | _ => .object

def type : Variant → VariantType
  | .member t _ _ => t
  | .object t _ => t
  | .plain d => typeOfValue d

/-- The key of a plain value, unless it can be changed. -/
def contentOfValue? : Datum → Option KeyContent
  | .null => some .nothing
  | .bool b => some (.bool b)
  | .int n => some (.int n)
  | .fraction m places => some (.fraction m places)
  | .text s => some (.text s)
  | _ => none

/-- The key under which a variant can be remembered, unless it can be changed. -/
def key? : Variant → Option VariantKey
  | .member t name _ => some ⟨t.id, .member name⟩
  | .object t text => some ⟨t.id, .object text⟩
  | .plain d => (contentOfValue? d).map fun c => ⟨(typeOfValue d).id, c⟩

def name : Variant → String
  | .member _ name _ => name
  | .object _ text => text
  | .plain d => d.shown

/-- A variant by the names of its type and of itself, whatever its value. -/
def label (v : Variant) : String × String :=
  (v.type.qualifiedName, v.name)

def literal : Variant → String
  | .member t name value => "<" ++ t.name ++ "." ++ name ++ ": " ++ value.literal ++ ">"
  | .object _ text => "<" ++ text ++ ">"
  | .plain d => d.literal

def text? : Variant → Option String
  | .member t _ value => if t.isText then some value.shown else none
  | .object _ _ => none
  | .plain (.text s) => some s
  | .plain _ => none

end Variant

/-- An enumeration: the values of its distinct members, and the member that each name means. -/
structure Enumeration where
  type : VariantType
  members : Keyed String Datum
  names : Keyed String String
  deriving Repr

namespace Enumeration

/-- The integer that a value becomes as a member of an integer type. Fractions are cut off, and
texts are read as numerals. -/
def memberInteger : Datum → Except Fault Int
  | .bool b => .ok b.toNat
  | .int n => .ok n
  | .fraction m places => .ok (Int.tdiv m (Datum.scale places))
  | .text s =>
    match Text.readNumeral (Text.trimSpace s.toList) with
    | .ok n => .ok n
    | .error _ => .error .unreadableMember
  | _ => .error .unsuitedMember

/-- A value as a member of a type has it: the members of integer types have integers, if the value
becomes one, and those of types derived from texts have texts. -/
def memberValue (t : VariantType) (d : Datum) : Datum :=
  if t.isInteger then
    match memberInteger d with
    | .ok n => .int n
    | .error _ => d
  else if t.isText then .text d.shown
  else d

/-- Whether a value may be given to a member of a type. Enumerations of texts take no other
values. -/
def permit (t : VariantType) (d : Datum) : Except Fault Unit :=
  if t.isInteger then (memberInteger d).map fun _ => ()
  else match d with
    | .text _ => .ok ()
    | _ => if t.isText then .error .unsuitedMember else .ok ()

/-- Adds a name. If its value is that of an earlier member, it means that member. -/
def add (e : Enumeration) (name : String) (value : Datum) : Enumeration :=
  let value := memberValue e.type value
  match e.members.find? fun m => m.2.same value with
  | some m => { e with names := e.names.put name m.1 }
  | none => { e with members := e.members.put name value, names := e.names.put name name }

def ofMembers (type : VariantType) (given : List (String × Datum)) : Enumeration :=
  given.foldl (fun e m => e.add m.1 m.2) ⟨type, [], []⟩

/-- The enumeration of some members, unless one of their values may not be given. -/
def define (type : VariantType) (given : List (String × Datum)) : Except Fault Enumeration := do
  given.forM fun m => permit type m.2
  return ofMembers type given

def member? (e : Enumeration) (name : String) : Option Variant := do
  let name ← e.names.lookup name
  let value ← e.members.lookup name
  return .member e.type name value

end Enumeration

end Diagnostics
