import Diagnostics.Excerpt
import Diagnostics.Source.FileTree
import Diagnostics.Text.Blank

/-!
# Suppliers of lines

Lines of a source are supplied by number, from the first to the last one asked for. A range that is
empty or that the source does not cover is refused. An excerpt of supplied lines carries the
numbers that the lines have in their source.

Sources are texts in memory, cut into lines when they are added, or the files of a tree. A file is
read as a whole first, in one of three encodings and with its newlines made uniform, and only then
is the range looked at. Latin 1 gives every byte a character; the other encodings refuse bytes that
are no text.
-/
namespace Diagnostics

def sliceLines (all : List String) (source : String) (first last : Int) :
    Except Fault (List String) :=
  if first < 1 ∨ last < first then .error (.unavailable source first last .invalidRange)
  else if (all.length : Int) < last then
    .error (.unavailable source first last (.tooShort all.length))
  else .ok ((all.drop (first - 1).toNat).take (last - first + 1).toNat)

/-- The excerpt of the lines from `first` on that a source supplied, with the source as its file. -/
def Excerpt.ofSource (source : String) (first : Int) (supplied : Except Fault (List String)) :
    Except Fault Excerpt := do
  return (← Excerpt.ofLines (← supplied) first).withFile (some source)

/-- Texts that are held by name, as lines. -/
abbrev TextSources := Keyed String (List String)

namespace TextSources

/-- Adds a text, in place of the one that had its name. -/
def add (sources : TextSources) (name text : String) : TextSources :=
  Keyed.put name (Text.lines text) sources

def ofTexts (texts : List (String × String)) : TextSources :=
  texts.foldl (fun sources t => sources.add t.1 t.2) []

def supply (sources : TextSources) (name : String) (first last : Int) :
    Except Fault (List String) :=
  match sources.lookup name with
  | some all => sliceLines all name first last
  | none => .error (.unavailable name first last .unknown)

end TextSources

/-- How the bytes of a file stand for characters. -/
inductive Encoding where
  | utf8 | latin1 | ascii
  deriving DecidableEq, Repr

namespace Encoding

def ofName? : String → Option Encoding
  | "utf-8" => some .utf8
  | "latin-1" => some .latin1
  | "ascii" => some .ascii
  | _ => none

def charOfByte (b : UInt8) : Char := Char.ofNat b.toNat

def decode : Encoding → ByteArray → Option String
  | .utf8, bytes => String.fromUTF8? bytes
  | .latin1, bytes => some (String.ofList (bytes.data.toList.map charOfByte))
  | .ascii, bytes =>
    if bytes.data.toList.all (· < 0x80) then
      some (String.ofList (bytes.data.toList.map charOfByte))
    else none

end Encoding

/-- A tree of files, the directory from which paths are followed, and the encoding of the files. -/
structure FileSource where
  tree : FileTree
  directory : Location
  encoding : Encoding

namespace FileSource

def readText (s : FileSource) (name : String) (first last : Int) : Except Fault String := do
  if name.toList.contains (Char.ofNat 0) then throw .nulInPath
  let bytes ← (s.tree.read ((Path.ofText name).seenFrom s.directory)).mapError fun problem =>
    .unavailable name first last (.file problem)
  match s.encoding.decode bytes with
  | some text => return String.ofList (Text.unifyNewlines text.toList)
  | none => throw .undecodable

def supply (s : FileSource) (name : String) (first last : Int) : Except Fault (List String) := do
  let text ← s.readText name first last
  sliceLines (Text.lines text) name first last

end FileSource

end Diagnostics
