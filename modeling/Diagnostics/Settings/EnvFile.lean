import Diagnostics.Keyed
import Diagnostics.Text.Blank

/-!
# Environment files

An environment file binds names to values, one binding a line: `NAME=value`, perhaps after the word
`export`, with blanks allowed around the equals sign and at the end. A value may stand between
quotes, in which escapes are resolved and lines may end; otherwise it runs up to the end of its
line or to a blank with a number sign behind it. Lines that are not bindings are passed over.
-/
namespace Diagnostics.EnvFile

def isInlineBlank (c : Char) : Bool :=
  Text.isBlank c && c != '\r' && c != '\n'

def isLineEnd (c : Char) : Bool := c == '\r' || c == '\n'

def skipInline (cs : List Char) : List Char := cs.dropWhile isInlineBlank

/-- Passes over the word `export` where blanks follow it. -/
def skipExport (cs : List Char) : List Char :=
  let word := ['e', 'x', 'p', 'o', 'r', 't']
  if word.isPrefixOf cs && ((cs.drop word.length).head?.any isInlineBlank) then
    skipInline (cs.drop word.length)
  else cs

def skipLine (cs : List Char) : List Char :=
  (cs.dropWhile fun c => !isLineEnd c).drop 1

/-- Text up to a closing quote, and the rest. A quote after a backslash is part of the text, unless
no other quote closes it. -/
def readQuoted (quote : Char) : List Char → Option (List Char × List Char)
  | [] => none
  | [c] => if c = quote then some ([], []) else none
  | c :: d :: cs =>
    if c = quote then some ([], d :: cs)
    else if c = '\\' ∧ d = quote then
      match readQuoted quote cs with
      | some (text, rest) => some (c :: d :: text, rest)
      | none => some ([c], cs)
    else (readQuoted quote (d :: cs)).map fun (text, rest) => (c :: text, rest)

def doubleEscape? : Char → Option Char
  | '\\' => some '\\'
  | '\'' => some '\''
  | '"' => some '"'
  | 'a' => some (Char.ofNat 7)
  | 'b' => some (Char.ofNat 8)
  | 'f' => some (Char.ofNat 12)
  | 'n' => some '\n'
  | 'r' => some '\r'
  | 't' => some '\t'
  | 'v' => some (Char.ofNat 11)
  | _ => none

def singleEscape? : Char → Option Char
  | '\\' => some '\\'
  | '\'' => some '\''
  | _ => none

def resolveEscapes (escape? : Char → Option Char) : List Char → List Char
  | '\\' :: c :: cs =>
    match escape? c with
    | some d => d :: resolveEscapes escape? cs
    | none => '\\' :: resolveEscapes escape? (c :: cs)
  | c :: cs => c :: resolveEscapes escape? cs
  | [] => []

/-- Drops a comment, which begins at a number sign with a blank in front of it. -/
def dropComment : List Char → List Char
  | c :: '#' :: cs => if Text.isBlank c then [] else c :: dropComment ('#' :: cs)
  | c :: cs => c :: dropComment cs
  | [] => []

def readValue (cs : List Char) : Option (List Char × List Char) :=
  match cs with
  | '\'' :: rest =>
    (readQuoted '\'' rest).map fun (text, rest) => (resolveEscapes singleEscape? text, rest)
  | '"' :: rest =>
    (readQuoted '"' rest).map fun (text, rest) => (resolveEscapes doubleEscape? text, rest)
  | _ =>
    let text := cs.takeWhile fun c => !isLineEnd c
    some (Text.dropEndWhile Text.isBlank (dropComment text), cs.dropWhile fun c => !isLineEnd c)

def readName (cs : List Char) : Option (List Char × List Char) :=
  match cs with
  | '\'' :: rest =>
    let name := rest.takeWhile (· != '\'')
    match rest.dropWhile (· != '\'') with
    | _ :: rest => if name.isEmpty then none else some (name, rest)
    | [] => none
  | _ =>
    let isNameChar := fun c => c != '=' && c != '#' && !Text.isBlank c
    let name := cs.takeWhile isNameChar
    if name.isEmpty then none else some (name, cs.dropWhile isNameChar)

/-- What is left after the end of a line, if nothing but a comment stands before it. -/
def endLine? (cs : List Char) : Option (List Char) :=
  let cs := match skipInline cs with
    | '#' :: rest => rest.dropWhile fun c => !isLineEnd c
    | cs => cs
  match cs with
  | [] => some []
  | '\r' :: '\n' :: rest => some rest
  | c :: rest => if isLineEnd c then some rest else none

/-- A name and, if an equals sign follows it, its value. -/
abbrev Binding := String × Option String

def readBinding (cs : List Char) : Option Binding × List Char :=
  let cs := skipExport (cs.dropWhile Text.isBlank)
  match cs with
  | [] => (none, [])
  | '#' :: _ => (none, skipLine cs)
  | _ =>
    match readName cs with
    | none => (none, skipLine cs)
    | some (name, rest) =>
      let rest := skipInline rest
      match rest with
      | '=' :: rest =>
        let rest := skipInline rest
        match readValue rest with
        | none => (none, skipLine rest)
        | some (value, rest) =>
          match endLine? rest with
          | some rest => (some (String.ofList name, some (String.ofList value)), rest)
          | none => (none, skipLine rest)
      | rest =>
        match endLine? rest with
        | some rest => (some (String.ofList name, none), rest)
        | none => (none, skipLine rest)

def readBindings (cs : List Char) : List Binding :=
  let (binding, rest) := readBinding cs
  if _h : rest.length < cs.length then binding.toList ++ readBindings rest else binding.toList
termination_by cs.length

/-- The values that a file binds; the last of several bindings of one name counts. -/
def parse (text : String) : Keyed String (Option String) :=
  (readBindings (Text.unifyNewlines text.toList)).foldl (fun entries b => entries.put b.1 b.2) []

end Diagnostics.EnvFile
