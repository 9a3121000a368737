import Diagnostics.Fault
import Diagnostics.Keyed

/-!
# Trees of files

Files stand at absolute paths, given by their components; a directory is there if it is listed or
if a file stands below it. A path is followed component by component, `..` leading up, so that a
path through something that is missing or that is no directory ends there.
-/
namespace Diagnostics

/-- The components of an absolute path, the root having none. -/
abbrev Location := List String

/-- The contents of files, and the directories that are there without files below them. -/
structure FileTree where
  files : Keyed Location ByteArray
  directories : List Location

namespace FileTree

def isDirectory (tree : FileTree) (place : Location) : Bool :=
  place.isEmpty || tree.directories.any (place.isPrefixOf ·) ||
    tree.files.any fun f => place.isPrefixOf f.1 && place.length < f.1.length

def maxComponentBytes : Nat := 255

def maxPathBytes : Nat := 4095

def walk (tree : FileTree) (place : Location) : List String → Except FileProblem Location
  | [] => .ok place
  | c :: cs =>
    if !tree.isDirectory place then .error .notDirectory
    else if c = ".." then walk tree place.dropLast cs
    else if maxComponentBytes < c.utf8ByteSize then .error .nameTooLong
    else
      let next := place ++ [c]
      if tree.isDirectory next || (tree.files.lookup next).isSome then walk tree next cs
      else .error .missing

def read (tree : FileTree) (path : List String) : Except FileProblem ByteArray := do
  if maxPathBytes < ("/" ++ "/".intercalate path).utf8ByteSize then throw .nameTooLong
  let found ← tree.walk [] path
  match tree.files.lookup found with
  | some bytes => return bytes
  | none => throw .isDirectory

end FileTree

/-- A path as it is written: its components, and whether it starts at the root. Empty components
and those for the same directory are left out. -/
structure Path where
  absolute : Bool
  components : List String
  deriving DecidableEq, Repr

namespace Path

def splitSlashes : List Char → List (List Char)
  | [] => [[]]
  | c :: cs =>
    match splitSlashes cs with
    | [] => []
    | part :: parts => if c = '/' then [] :: part :: parts else (c :: part) :: parts

def ofText (s : String) : Path :=
  ⟨s.toList.head? == some '/',
    (((splitSlashes s.toList).map String.ofList).filter fun c => c ≠ "" && c ≠ ".")⟩

/-- The components to follow from the root, where a path is followed from a directory. -/
def seenFrom (p : Path) (directory : Location) : List String :=
  if p.absolute then p.components else directory ++ p.components

def name (p : Path) : String := p.components.getLastD ""

end Path

end Diagnostics
