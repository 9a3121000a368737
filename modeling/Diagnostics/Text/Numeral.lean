import Diagnostics.Text.Blank
import Diagnostics.Text.Quoted

/-!
# Numerals

Integers are written in decimal with a minus sign in front where one is due. They are read in two
ways: from a word of a text, with the digits of any script, and from a text that is given where a
number is expected, with the digits `0` to `9` and a fraction of zeros. In both, one sign may come
first and single underscores may stand between digits. A decimal digit is one of ten consecutive
characters, zero first.

Why a word is no number is told to a reader of the file in words. Of a word that is not a numeral
only the first characters of its quoted form are shown.
-/
namespace Diagnostics.Text

/-- The code points of the digits zero of all scripts that have them, in order. -/
def zeroDigits : List Nat :=
  [0x30, 0x660, 0x6f0, 0x7c0, 0x966, 0x9e6, 0xa66, 0xae6, 0xb66, 0xbe6, 0xc66, 0xce6, 0xd66,
   0xde6, 0xe50, 0xed0, 0xf20, 0x1040, 0x1090, 0x17e0, 0x1810, 0x1946, 0x19d0, 0x1a80, 0x1a90,
   0x1b50, 0x1bb0, 0x1c40, 0x1c50, 0xa620, 0xa8d0, 0xa900, 0xa9d0, 0xa9f0, 0xaa50, 0xabf0,
   0xff10, 0x104a0, 0x10d30, 0x11066, 0x110f0, 0x11136, 0x111d0, 0x112f0, 0x11450, 0x114d0,
   0x11650, 0x116c0, 0x11730, 0x118e0, 0x11950, 0x11c50, 0x11d50, 0x11da0, 0x16a60, 0x16ac0,
   0x16b50, 0x1d7ce, 0x1d7d8, 0x1d7e2, 0x1d7ec, 0x1d7f6, 0x1e140, 0x1e2f0, 0x1e950, 0x1fbf0]

/-- The value of a decimal digit of any script. -/
def digitValue? (c : Char) : Option Nat :=
  (zeroDigits.find? fun base => base ≤ c.toNat && c.toNat < base + 10).map (c.toNat - ·)

def asciiDigitValue? (c : Char) : Option Nat :=
  if 0x30 ≤ c.toNat ∧ c.toNat ≤ 0x39 then some (c.toNat - 0x30) else none

theorem digitValue?_lt {c : Char} {d : Nat} (h : digitValue? c = some d) : d < 10 := by
  obtain ⟨base, hb, rfl⟩ := Option.map_eq_some_iff.1 h
  have := List.find?_some hb
  simp at this
  omega

def natural (n : Nat) : String :=
  String.ofList (Nat.toDigits 10 n)

def decimal : Int → String
  | .ofNat n => natural n
  | .negSucc n => "-" ++ natural (n + 1)

/-- The digits of a numeral, most significant first; single underscores may stand between two. -/
def readDigits? (value? : Char → Option Nat) : List Char → Option (List Nat)
  | [] => none
  | [c] => (value? c).map ([·])
  | c :: '_' :: cs => do
    let d ← value? c
    let ds ← readDigits? value? cs
    return d :: ds
  | c :: cs => do
    let d ← value? c
    let ds ← readDigits? value? cs
    return d :: ds

def ofDigits (ds : List Nat) : Nat :=
  ds.foldl (fun n d => 10 * n + d) 0

/-- Splits off one sign; the flag says whether it was a minus. -/
def splitSign : List Char → Bool × List Char
  | '-' :: cs => (true, cs)
  | '+' :: cs => (false, cs)
  | cs => (false, cs)

def signed (negative : Bool) (n : Nat) : Int :=
  if negative then -(n : Int) else n

inductive NumeralFault where
  | malformed
  | tooLong (digits : Nat)
  deriving DecidableEq, Repr

def maxNumeralDigits : Nat := 4300

/-- The most characters that are shown of a quoted word. -/
def maxShown : Nat := 200

def NumeralFault.message (word : List Char) : NumeralFault → String
  | .malformed =>
    "invalid literal for int() with base 10: " ++
      String.ofList ((quoteWith isPrintable word).take maxShown)
  | .tooLong digits =>
    "Exceeds the limit (" ++ natural maxNumeralDigits ++
      " digits) for integer string conversion: value has " ++ natural digits ++
      " digits; use sys.set_int_max_str_digits() to increase the limit"

/-- The digits at the front of a text, if underscores only stand singly between two of them. -/
def leadingDigits (cs : List Char) : Option (List Nat) :=
  readDigits? digitValue? (cs.takeWhile fun c => c == '_' || (digitValue? c).isSome)

/-- Reads a word as an integer. The length of the digits in front is looked at first, so a long
numeral is too long whatever follows it. -/
def readNumeral (word : List Char) : Except NumeralFault Int :=
  let (negative, cs) := splitSign word
  match leadingDigits cs with
  | some ds =>
    if maxNumeralDigits < ds.length then .error (.tooLong ds.length)
    else match readDigits? digitValue? cs with
      | some ds => .ok (signed negative (ofDigits ds))
      | none => .error .malformed
  | none => .error .malformed

/-- Reads an integer from a text given where a number is expected. -/
def readInteger? (text : List Char) : Option Int := do
  let (negative, cs) := splitSign (trimSpace text)
  let whole := cs.takeWhile (· != '.')
  let ds ← readDigits? asciiDigitValue? whole
  match cs.dropWhile (· != '.') with
  | [] => return signed negative (ofDigits ds)
  | _ :: zeros =>
    if !zeros.isEmpty && zeros.all (· == '0') then return signed negative (ofDigits ds)
    else none

end Diagnostics.Text
