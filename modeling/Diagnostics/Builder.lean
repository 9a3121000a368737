import Diagnostics.Session
import Diagnostics.Validation.Report

/-!
# Building reports

A builder gathers what a report will say, as data that is not checked yet. Every step gives a new
builder; the last write of a field counts, and excerpts add up. The report is made by checking all
that was gathered.
-/
namespace Diagnostics

/-- What was gathered for a report so far. -/
structure Builder where
  identifier : Datum := .null
  title : Datum := .null
  level : Datum := .text Level.error.word
  message : Datum := .null
  help : Datum := .null
  docUrl : Datum := .null
  site : Datum := .null
  excerpts : List Datum := []
  deriving Repr, Inhabited

namespace Builder

def withTitle (b : Builder) (title : Datum) : Builder := { b with title }

def withMessage (b : Builder) (message : Datum) : Builder := { b with message }

def withHelp (b : Builder) (help : Datum) : Builder := { b with help }

def withDocUrl (b : Builder) (docUrl : Datum) : Builder := { b with docUrl }

def withLevel (b : Builder) (level : Datum) : Builder := { b with level }

def atLevel (b : Builder) (l : Level) : Builder := b.withLevel (.text l.word)

def withSite (b : Builder) (site : Datum) : Builder := { b with site }

/-- The builder with the innermost of some calls as its site. -/
def here (b : Builder) (calls : List Site) : Builder :=
  b.withSite (.site (Site.ofCalls calls 0))

def addExcerpt (b : Builder) (e : Datum) : Builder :=
  { b with excerpts := b.excerpts ++ [e] }

/-- The builder with another identifier. Its link is taken over if the identifier has one. -/
def withIdentifier (b : Builder) (v : Variant) : Action Builder := do
  let r ← Session.identify v
  return { b with
    identifier := .text r.code
    docUrl := match r.docUrl with
      | some url => .text url
      | none => b.docUrl }

def forVariant (v : Variant) (title : Datum) : Action Builder :=
  (withTitle {} title).withIdentifier v

def data (b : Builder) : Datum :=
  .record [("identifier", b.identifier), ("title", b.title), ("level", b.level),
    ("message", b.message), ("help", b.help), ("doc_url", b.docUrl), ("definition_site", b.site),
    ("contexts", .list b.excerpts)]

def same (a b : Builder) : Bool := a.data.same b.data

/-- The builder with an identifier and a title put in at last, where they are given. -/
def overridden (b : Builder) (identifier : Option Variant) (title : Datum) : Action Builder := do
  let b ← match identifier with
    | some v => b.withIdentifier v
    | none => pure b
  return match title with
    | .null => b
    | title => b.withTitle title

/-- What a builder lacks of the identity of a report, the identifier first. -/
def missing? (b : Builder) : Option IdentityField :=
  if !b.identifier.isGiven then some .identifier
  else if !b.title.isGiven then some .title
  else none

/-- The report that a builder holds. The builder refuses to finish without an identity by itself,
before its data is checked. -/
def finish (b : Builder) : Except Fault Report :=
  match b.missing? with
  | some field => .error (.missingField field)
  | none => Validation.checkReport b.data

def build (b : Builder) (identifier : Option Variant) (title : Datum) : Action Report := do
  let b ← b.overridden identifier title
  Session.ofExcept b.finish

end Builder

end Diagnostics
