import Diagnostics.Fault
import Diagnostics.Keyed

/-!
# Links to documentation

A linker fills the names of a package, a version, a path and an anchor into a template. Its version
can be looked up among the installed distributions, whose names are compared without regard to
case and to which of the characters `-`, `_` and `.` stand between their parts.
-/
namespace Diagnostics

/-- What links to the documentation of one package are made from. -/
structure DocLinker where
  package : String
  version : String
  template : String
  deriving DecidableEq, Repr

/-- The parts of the template that is used where none is given: a page on the host of the package,
below its version, and an anchor on it. -/
def DocLinker.defaultParts : List Text.Template.Segment :=
  [.literal "https://", .value "package", .literal ".readthedocs.io/en/", .value "version",
    .literal "/", .value "path", .literal ".html#", .value "anchor"]

def DocLinker.defaultTemplate : String :=
  Text.Template.ofSegments defaultParts

def pathOfType (typePath : String) : String :=
  String.ofList (typePath.toList.map fun c => if c = '.' then '/' else c)

def DocLinker.link (l : DocLinker) (typePath anchor : String) : Except Fault String :=
  (Text.Template.expand [("package", l.package), ("version", l.version),
    ("path", pathOfType typePath), ("anchor", anchor)] l.template).mapError .template

def isNameSeparator (c : Char) : Bool :=
  c == '-' || c == '_' || c == '.'

/-- A distribution's name with one separator for every run of them and without upper case. -/
def canonicalName : List Char → List Char
  | [] => []
  | c :: cs =>
    if isNameSeparator c then
      match cs with
      | d :: _ => if isNameSeparator d then canonicalName cs else '_' :: canonicalName cs
      | [] => ['_']
    else c.toLower :: canonicalName cs

def installedVersion? (installed : List (String × String)) (name : String) : Option String :=
  (installed.find? fun d => canonicalName d.1.toList = canonicalName name.toList).map Prod.snd

/-- The version that stands for the documentation of a distribution that is not installed. -/
def latestVersion : String := "latest"

end Diagnostics
