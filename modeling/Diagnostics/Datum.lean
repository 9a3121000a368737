import Diagnostics.Report
import Diagnostics.Text.Quoted

/-!
# Data

Data is what reports are made from before anything is known about it: plain values, sequences and
records, and parts that were checked before. Two data may be the same although they are written
differently: `true` is the number one, and a fraction without a remainder is an integer.
-/
namespace Diagnostics

/-- Unchecked data, in which parts that were checked before may occur. -/
inductive Datum where
  | null
  | bool (b : Bool)
  | int (n : Int)
  /-- The number `mantissa / 10 ^ places`, written with a decimal point. -/
  | fraction (mantissa : Int) (places : Nat)
  | text (s : String)
  | list (items : List Datum)
  | record (fields : List (String × Datum))
  | line (l : SourceLine)
  | highlight (h : Highlight)
  | excerpt (e : Excerpt)
  | site (s : Site)
  | report (r : Report)
  deriving Repr, Inhabited

namespace Datum

def ofOption : Option String → Datum
  | none => .null
  | some s => .text s

/-- Whether data counts as given where something is required. -/
def isGiven : Datum → Bool
  | .null => false
  | .bool b => b
  | .int n => n ≠ 0
  | .fraction m _ => m ≠ 0
  | .text s => s ≠ ""
  | .list items => !items.isEmpty
  | .record fields => !fields.isEmpty
  | _ => true

def scale (places : Nat) : Nat := Nat.pow 10 places

/-- The number that a value stands for, as a mantissa and a number of decimal places. -/
def number? : Datum → Option (Int × Nat)
  | .bool b => some (b.toNat, 0)
  | .int n => some (n, 0)
  | .fraction m places => some (m, places)
  | _ => none

def sameNumber (x y : Int × Nat) : Bool :=
  x.1 * scale y.2 == y.1 * scale x.2

mutual

/-- Whether two data are the same, however their numbers are written. -/
def same : Datum → Datum → Bool
  | .null, .null => true
  | .text s, .text t => s == t
  | .list xs, .list ys => sameItems xs ys
  | .record xs, .record ys => sameFields xs ys
  | .line x, .line y => x == y
  | .highlight x, .highlight y => x == y
  | .excerpt x, .excerpt y => x == y
  | .site x, .site y => x == y
  | .report x, .report y => x == y
  | x, y =>
    match x.number?, y.number? with
    | some m, some n => sameNumber m n
    | _, _ => false

def sameItems : List Datum → List Datum → Bool
  | [], [] => true
  | x :: xs, y :: ys => same x y && sameItems xs ys
  | _, _ => false

def sameFields : List (String × Datum) → List (String × Datum) → Bool
  | [], [] => true
  | (n, x) :: xs, (m, y) :: ys => n == m && same x y && sameFields xs ys
  | _, _ => false

end

def fractionText (mantissa : Int) (places : Nat) : String :=
  let size := mantissa.natAbs
  let below := Nat.toDigits 10 (size % scale places)
  let digits := List.replicate (places - below.length) '0' ++ below
  let kept := Text.dropEndWhile (· == '0') digits
  (if mantissa < 0 then "-" else "") ++ Text.natural (size / scale places) ++ "." ++
    (if kept.isEmpty then "0" else String.ofList kept)

mutual

/-- Data as it would be written down; a part that was checked before only says what it is. -/
def literal : Datum → String
  | .null => "None"
  | .bool b => if b then "True" else "False"
  | .int n => Text.decimal n
  | .fraction m places => fractionText m places
  | .text s => Text.quoted s
  | .list items => "[" ++ ", ".intercalate (literalItems items) ++ "]"
  | .record fields => "\x7b" ++ ", ".intercalate (literalFields fields) ++ "\x7d"
  | .line _ => "<line>"
  | .highlight _ => "<highlight>"
  | .excerpt _ => "<excerpt>"
  | .site _ => "<site>"
  | .report _ => "<report>"

def literalItems : List Datum → List String
  | [] => []
  | d :: ds => literal d :: literalItems ds

def literalFields : List (String × Datum) → List String
  | [] => []
  | (name, d) :: ds => (Text.quoted name ++ ": " ++ literal d) :: literalFields ds

end

def shown : Datum → String
  | .text s => s
  | d => d.literal

end Datum

end Diagnostics
