import Diagnostics.Text.Printable

/-!
# Quoted text

A text is quoted between single quotes, or between double quotes when it holds a single quote and
no double one. The quote itself and the backslash are written after a backslash, tabs and line
ends by letter, and every other character that is not shown by its code point in hexadecimal.
-/
namespace Diagnostics.Text

/-- The hexadecimal digits of a code point, filled with zeros to a width. -/
def hexadecimal (width n : Nat) : List Char :=
  let ds := Nat.toDigits 16 n
  List.replicate (width - ds.length) '0' ++ ds

/-- A code point after a backslash, in the shortest of the three widths that hold it. -/
def escapeCodePoint (c : Char) : List Char :=
  let n := c.toNat
  if n < 0x100 then '\\' :: 'x' :: hexadecimal 2 n
  else if n < 0x10000 then '\\' :: 'u' :: hexadecimal 4 n
  else '\\' :: 'U' :: hexadecimal 8 n

def quoteChar (isShown : Char → Bool) (quote c : Char) : List Char :=
  if c = quote ∨ c = '\\' then ['\\', c]
  else if c = '\t' then ['\\', 't']
  else if c = '\n' then ['\\', 'n']
  else if c = '\r' then ['\\', 'r']
  else if isShown c then [c]
  else escapeCodePoint c

/-- Double quotes are taken only where they save an escape. -/
def quoteMark (cs : List Char) : Char :=
  if cs.contains '\'' && !cs.contains '"' then '"' else '\''

def quoteWith (isShown : Char → Bool) (cs : List Char) : List Char :=
  let quote := quoteMark cs
  quote :: cs.flatMap (quoteChar isShown quote) ++ [quote]

def isPrintableAscii (c : Char) : Bool :=
  isPrintable c && c.toNat < 0x80

def quoted (s : String) : String :=
  String.ofList (quoteWith isPrintable s.toList)

end Diagnostics.Text
