import Diagnostics.Text.Numeral
import Diagnostics.Text.Quoted

/-!
# Templates

A template is literal text with fields between braces; doubled braces stand for themselves. A field
holds a name, perhaps with a position in its value between brackets, optionally `!` with a
conversion and `:` with a layout (fill and alignment, a least width, a greatest length), in which
fields may occur once more. `pieces` cuts a template up to its
first malformed place and `expand` fills it in from left to right, so the leftmost fault is the one
reported; what a field is replaced by is not looked at again.
-/
namespace Diagnostics.Text.Template

/-- A part of a template: a character that stands for itself, or a field. -/
inductive Piece where
  | char (c : Char)
  | field (name : List Char) (conversion : Option Char) (layout : List Char)
  deriving DecidableEq, Repr

inductive Fault where
  | unknownName
  /-- A field is empty or numbered, and nothing is given by position, or a value ends before a
  position. -/
  | noPosition
  | noMember
  | noKey
  | malformed
  deriving DecidableEq, Repr

/-- A field name, the character that ends it, and the rest. Between brackets only the closing
bracket counts. -/
def readName (bracketed : Bool) : List Char → Option (List Char × Char × List Char)
  | [] => none
  | c :: cs =>
    if bracketed then
      (readName (c != ']') cs).map fun (name, stop, rest) => (c :: name, stop, rest)
    else if c = '{' then none
    else if c = '}' ∨ c = ':' ∨ c = '!' then some ([], c, cs)
    else (readName (c == '[') cs).map fun (name, stop, rest) => (c :: name, stop, rest)

/-- A layout up to the brace that closes its field, `depth` further braces being open. -/
def readLayout (depth : Nat) : List Char → Option (List Char × List Char)
  | [] => none
  | '}' :: cs =>
    match depth with
    | 0 => some ([], cs)
    | depth + 1 => (readLayout depth cs).map fun (layout, rest) => ('}' :: layout, rest)
  | '{' :: cs =>
    (readLayout (depth + 1) cs).map fun (layout, rest) => ('{' :: layout, rest)
  | c :: cs => (readLayout depth cs).map fun (layout, rest) => (c :: layout, rest)

def readField (cs : List Char) : Option (Piece × List Char) :=
  match readName false cs with
  | none => none
  | some (name, '}', rest) => some (.field name none [], rest)
  | some (name, ':', rest) =>
    (readLayout 0 rest).map fun (layout, rest) => (.field name none layout, rest)
  | some (_, _, []) => none
  | some (name, _, c :: '}' :: rest) => some (.field name (some c) [], rest)
  | some (name, _, c :: ':' :: rest) =>
    (readLayout 0 rest).map fun (layout, rest) => (.field name (some c) layout, rest)
  | some _ => none

theorem readName_length {bracketed : Bool} {cs name rest : List Char} {stop : Char}
    (h : readName bracketed cs = some (name, stop, rest)) : rest.length < cs.length := by
  induction cs generalizing bracketed name with
  | nil => simp [readName] at h
  | cons c cs ih =>
    simp only [readName] at h
    split at h
    · obtain ⟨⟨name', stop', rest'⟩, h', he⟩ := Option.map_eq_some_iff.1 h
      cases he
      exact Nat.lt_succ_of_lt (ih h')
    · split at h
      · cases h
      · split at h
        · cases h
          simp
        · obtain ⟨⟨name', stop', rest'⟩, h', he⟩ := Option.map_eq_some_iff.1 h
          cases he
          exact Nat.lt_succ_of_lt (ih h')

theorem readLayout_length {depth : Nat} {cs layout rest : List Char}
    (h : readLayout depth cs = some (layout, rest)) : rest.length < cs.length := by
  fun_induction readLayout depth cs generalizing layout rest with
  | case1 => cases h
  | case2 => cases h; simp
  | case3 cs depth ih =>
    obtain ⟨⟨l, r⟩, h', he⟩ := Option.map_eq_some_iff.1 h
    cases he
    exact Nat.lt_succ_of_lt (ih h')
  | case4 depth cs ih =>
    obtain ⟨⟨l, r⟩, h', he⟩ := Option.map_eq_some_iff.1 h
    cases he
    exact Nat.lt_succ_of_lt (ih h')
  | case5 depth c cs _ _ ih =>
    obtain ⟨⟨l, r⟩, h', he⟩ := Option.map_eq_some_iff.1 h
    cases he
    exact Nat.lt_succ_of_lt (ih h')

theorem readField_length {cs rest : List Char} {piece : Piece}
    (h : readField cs = some (piece, rest)) : rest.length < cs.length := by
  unfold readField at h
  split at h
  · cases h
  · next hn => cases h; exact readName_length hn
  · next hn =>
    obtain ⟨⟨l, r⟩, hl, he⟩ := Option.map_eq_some_iff.1 h
    cases he
    have := readName_length hn
    have := readLayout_length hl
    omega
  · cases h
  · next hn =>
    cases h
    have := readName_length hn
    simp at this
    omega
  · next hn =>
    obtain ⟨⟨l, r⟩, hl, he⟩ := Option.map_eq_some_iff.1 h
    cases he
    have := readName_length hn
    have := readLayout_length hl
    simp at *
    omega
  · cases h

/-- The pieces in front of the first malformed place, and whether there is none. -/
def pieces (cs : List Char) : List Piece × Bool :=
  match cs with
  | [] => ([], true)
  | '{' :: '{' :: rest => let (ps, whole) := pieces rest; (.char '{' :: ps, whole)
  | '}' :: '}' :: rest => let (ps, whole) := pieces rest; (.char '}' :: ps, whole)
  | '}' :: _ => ([], false)
  | '{' :: rest =>
    match _h : readField rest with
    | none => ([], false)
    | some (piece, after) => let (ps, whole) := pieces after; (piece :: ps, whole)
  | c :: rest => let (ps, whole) := pieces rest; (.char c :: ps, whole)
termination_by cs.length
decreasing_by
  · simp only [List.length_cons]
    omega
  · simp only [List.length_cons]
    omega
  · have := readField_length _h
    simp only [List.length_cons]
    omega
  · simp only [List.length_cons]
    omega

inductive Alignment where
  | left | right | centre
  deriving DecidableEq, Repr

/-- How a text is laid out: filled up to a width, after being cut to a length. -/
structure Layout where
  fill : Char := ' '
  alignment : Alignment := .left
  width : Nat := 0
  length? : Option Nat := none
  deriving DecidableEq, Repr

def alignment? : Char → Option Alignment
  | '<' => some .left
  | '>' => some .right
  | '^' => some .centre
  | _ => none

/-- The greatest number that a template may hold. -/
def maxCount : Nat := 9223372036854775807

def readCount (cs : List Char) : Except Fault (Option Nat × List Char) :=
  let ds := (cs.takeWhile fun c => (digitValue? c).isSome).filterMap digitValue?
  if maxCount < ofDigits ds then .error .malformed
  else .ok (if ds.isEmpty then none else some (ofDigits ds),
    cs.dropWhile fun c => (digitValue? c).isSome)

/-- Fill and alignment at the front of a layout, and the rest. -/
def readAlignment (cs : List Char) : Layout × Bool × List Char :=
  let short : Layout × Bool × List Char :=
    match cs with
    | c :: rest =>
      match alignment? c with
      | some a => (⟨' ', a, 0, none⟩, false, rest)
      | none => (⟨' ', .left, 0, none⟩, false, cs)
    | [] => (⟨' ', .left, 0, none⟩, false, [])
  match cs with
  | fill :: c :: rest =>
    match alignment? c with
    | some a => (⟨fill, a, 0, none⟩, true, rest)
    | none => short
  | _ => short

/-- Reads a layout for text. A zero before the width fills with zeros unless a fill is given. -/
def readTextLayout (cs : List Char) : Except Fault Layout := do
  let (layout, filled, cs) := readAlignment cs
  let (layout, cs) := match cs with
    | '0' :: rest => if filled then (layout, cs) else ({ layout with fill := '0' }, rest)
    | _ => (layout, cs)
  let (width, cs) ← readCount cs
  let layout := { layout with width := width.getD 0 }
  let (layout, cs) ← match cs with
    | '.' :: rest => do
      match ← readCount rest with
      | (some n, rest) => .ok ({ layout with length? := some n }, rest)
      | (none, _) => .error .malformed
    | _ => .ok (layout, cs)
  if cs = [] ∨ cs = ['s'] then .ok layout else .error .malformed

/-- A text cut to its greatest length and filled up to its width; the odd fill character of a
centred text goes to the right. -/
def Layout.apply (l : Layout) (text : List Char) : List Char :=
  let text := match l.length? with
    | some n => text.take n
    | none => text
  let missing := l.width - text.length
  let before := match l.alignment with
    | .left => 0
    | .right => missing
    | .centre => missing / 2
  List.replicate before l.fill ++ text ++ List.replicate (missing - before) l.fill

def convert (conversion : Option Char) (value : List Char) : Except Fault (List Char) :=
  match conversion with
  | none => .ok value
  | some 's' => .ok value
  | some 'r' => .ok (quoteWith isPrintable value)
  | some 'a' => .ok (quoteWith isPrintableAscii value)
  | some _ => .error .malformed

def positionOf (name : List Char) : Except Fault (Option Nat) := do
  match ← readCount name with
  | (n?, []) => return n?
  | _ => return none

/-- The part of a value that the rest of a name asks for, position by position. -/
def partOf (value rest : List Char) : Except Fault (List Char) :=
  match rest with
  | [] => .ok value
  | '.' :: rest =>
    match rest with
    | [] => .error .malformed
    | c :: _ => if c = '.' ∨ c = '[' then .error .malformed else .error .noMember
  | '[' :: rest =>
    let inside := rest.takeWhile (· != ']')
    match _h : rest.dropWhile (· != ']') with
    | [] => .error .malformed
    | _ :: after => do
      match ← positionOf inside with
      | none => .error (if inside.isEmpty then .malformed else .noKey)
      | some n =>
        match value[n]? with
        | none => .error .noPosition
        | some c => partOf [c] after
  | _ => .error .malformed
termination_by rest.length
decreasing_by
  have := (List.dropWhile_sublist (l := rest) (· != ']')).length_le
  simp only [_h, List.length_cons] at *
  omega

def valueOf (values : List (String × String)) (name : List Char) : Except Fault (List Char) := do
  let isInFirst := fun c => c != '.' && c != '['
  let first := name.takeWhile isInFirst
  if first.isEmpty || (← positionOf first).isSome then throw .noPosition
  match values.lookup (String.ofList first) with
  | none => throw .unknownName
  | some value => partOf value.toList (name.dropWhile isInFirst)

def layOut (layout : List Char) (value : List Char) : Except Fault (List Char) :=
  if layout.isEmpty then .ok value
  else (readTextLayout layout).map fun l => l.apply value

/-- Fills in a template whose layouts may hold fields up to a depth. -/
def expandTo (values : List (String × String)) : Nat → List Char → Except Fault (List Char)
  | 0, _ => .error .malformed
  | depth + 1, cs => do
    let (ps, whole) := pieces cs
    let texts ← ps.mapM fun
      | .char c => pure [c]
      | .field name conversion layout => do
        let value ← convert conversion (← valueOf values name)
        let layout ← if layout.contains '{' then expandTo values depth layout else pure layout
        layOut layout value
    if whole then pure texts.flatten else throw .malformed

def expand (values : List (String × String)) (template : String) : Except Fault String :=
  (expandTo values 2 template.toList).map String.ofList

/-- A part of a template as it is meant: literal text, or the value of a name. -/
inductive Segment where
  | literal (text : String)
  | value (name : String)
  deriving DecidableEq, Repr

namespace Segment

/-- Literal text as it is written in a template: every brace is doubled. -/
def escape (cs : List Char) : List Char :=
  cs.flatMap fun c => if c = '{' ∨ c = '}' then [c, c] else [c]

def written : Segment → List Char
  | .literal text => escape text.toList
  | .value name => '{' :: name.toList ++ ['}']

def filled? (values : List (String × String)) : Segment → Option String
  | .literal text => some text
  | .value name => values.lookup name

end Segment

def ofSegments (parts : List Segment) : String :=
  String.ofList (parts.flatMap Segment.written)

end Diagnostics.Text.Template
