/-!
# Blanks and line breaks

A blank separates words and may be dropped from the end of a row. Columns count characters, so
everything here works on lists of characters; `words` keeps the characters that are not blank, in
order, and cuts them wherever a blank stood between two of them.

A text is cut into lines at its line breaks; a carriage return and the newline after it are one
break, and a break at the very end starts no further line. Reading a file first turns every
carriage return, alone or before a newline, into one newline.
-/
namespace Diagnostics.Text

/-- The white space that may surround a number: tabs, line ends and the spaces of every script. -/
def isSpace (c : Char) : Bool :=
  let n := c.toNat
  (9 ≤ n && n ≤ 13) || n == 0x20 || n == 0x85 || n == 0xa0 || n == 0x1680 ||
    (0x2000 ≤ n && n ≤ 0x200a) || n == 0x2028 || n == 0x2029 || n == 0x202f || n == 0x205f ||
    n == 0x3000

/-- A blank is white space or one of the four information separators. -/
def isBlank (c : Char) : Bool :=
  isSpace c || (0x1c ≤ c.toNat && c.toNat ≤ 0x1f)

/-- Drops the longest end that `drop` accepts throughout. -/
def dropEndWhile (drop : Char → Bool) (cs : List Char) : List Char :=
  (cs.reverse.dropWhile drop).reverse

def trimEnd (s : String) : String :=
  String.ofList (dropEndWhile isBlank s.toList)

def trimSpace (cs : List Char) : List Char :=
  dropEndWhile isSpace (cs.dropWhile isSpace)

/-- The maximal runs of characters that are not blank, in order. -/
def words : List Char → List (List Char)
  | [] => []
  | c :: cs =>
    if isBlank c then words cs
    else match cs, words cs with
      | d :: _, w :: ws => if isBlank d then [c] :: w :: ws else (c :: w) :: ws
      | _, ws => [c] :: ws

def firstIndex? (word : List Char) : List Char → Option Nat
  | [] => if word.isEmpty then some 0 else none
  | c :: cs =>
    if word.isPrefixOf (c :: cs) then some 0 else (firstIndex? word cs).map (· + 1)

def firstIndexFrom? (word : List Char) (start : Nat) (cs : List Char) : Option Nat :=
  (firstIndex? word (cs.drop start)).map (· + start)

def isLineBreak (c : Char) : Bool :=
  let n := c.toNat
  (10 ≤ n && n ≤ 13) || (0x1c ≤ n && n ≤ 0x1e) || n == 0x85 || n == 0x2028 || n == 0x2029

def consLine (c : Char) : List (List Char) → List (List Char)
  | [] => [[c]]
  | l :: ls => (c :: l) :: ls

def splitLines : List Char → List (List Char)
  | [] => []
  | '\r' :: '\n' :: cs => [] :: splitLines cs
  | c :: cs => if isLineBreak c then [] :: splitLines cs else consLine c (splitLines cs)

/-- Writes every carriage return, with the newline that may follow it, as one newline. -/
def unifyNewlines : List Char → List Char
  | [] => []
  | '\r' :: '\n' :: cs => '\n' :: unifyNewlines cs
  | c :: cs => (if c = '\r' then '\n' else c) :: unifyNewlines cs

def lines (s : String) : List String :=
  (splitLines s.toList).map String.ofList

@[simp] theorem words_nil : words [] = [] := rfl

@[simp] theorem trimEnd_empty : trimEnd "" = "" := rfl

@[simp] theorem splitLines_nil : splitLines [] = [] := rfl

@[simp] theorem unifyNewlines_nil : unifyNewlines [] = [] := rfl

end Diagnostics.Text
