import Diagnostics.Validation.Report

/-! # What comes up when data is visited

Data is visited field by field in the order in which the fields are declared, the items of a
sequence by their index, and the cause of a report last. What comes up is listed in that order: the
issues of badly typed parts with their paths, and the faults of highlights that do not fit and of
causes without identity. A report without identity is not visited any further, and the highlights of an
excerpt are looked at only if nothing else came up in it.
-/
namespace Diagnostics

inductive Incident where
  | issue (i : Issue)
  | fault (f : Fault)
  deriving DecidableEq, Repr

namespace Incident

def within (step : Step) : Incident → Incident
  | .issue i => .issue { i with path := step :: i.path }
  | .fault f => .fault f

def issue? : Incident → Option Issue
  | .issue i => some i
  | .fault _ => none

def fault? : Incident → Option Fault
  | .issue _ => none
  | .fault f => some f

def ofKind (kind : IssueKind) : Incident := .issue ⟨[], kind⟩

end Incident

def issuesOf (incidents : List Incident) : List Issue :=
  incidents.filterMap Incident.issue?

def firstFault? (incidents : List Incident) : Option Fault :=
  incidents.findSome? Incident.fault?

namespace Validation

abbrev Visit := Datum → List Incident

/-- A plain value, which has no parts. -/
def visitPlain {α : Type} (check : Check α) : Visit := fun d =>
  match check d with
  | .invalid issues => issues.map .issue
  | _ => []

def visitRequired (name : String) (visit : Visit) (fields : List (String × Datum)) :
    List Incident :=
  match fields.lookup name with
  | some d => (visit d).map (.within (.field name))
  | none => [.issue ⟨[.field name], .missing⟩]

def visitOptional (name : String) (visit : Visit) (fields : List (String × Datum)) :
    List Incident :=
  match fields.lookup name with
  | some d => (visit d).map (.within (.field name))
  | none => []

def visitItemsFrom (first : Nat) (visit : Visit) (ds : List Datum) : List Incident :=
  (ds.zipIdx first).flatMap fun e => (visit e.1).map (.within (.index e.2))

def visitSequence (visit : Visit) : Visit
  | .list ds => visitItemsFrom 0 visit ds
  | _ => [.ofKind .sequenceExpected]

def visitLineFields (fields : List (String × Datum)) : List Incident :=
  visitRequired "number" (visitPlain positive) fields ++
    visitRequired "text" (visitPlain text) fields

def visitPair : Visit
  | .list [number, text] => visitLineFields [("number", number), ("text", text)]
  | _ => []

/-- What comes up in the first bad pair among some items. -/
def visitFirstBadPair (ds : List Datum) : List Incident :=
  ((ds.map visitPair).find? fun incidents => incidents ≠ []).getD []

/-- A line that is not written as a pair. -/
def visitLine : Visit
  | .line _ => []
  | .list [_, _] => []
  | .record fields => visitLineFields fields
  | _ => [.ofKind .recordExpected]

/-- The lines of an excerpt. Pairs come first and have no index. -/
def visitLines : Visit
  | .list ds =>
    if visitFirstBadPair ds = [] then visitItemsFrom 0 visitLine ds else visitFirstBadPair ds
  | .record fields => visitItemsFrom 0 visitLine (fields.map fun f => .text f.1)
  | _ => [.ofKind .sequenceExpected]

def visitHighlight : Visit
  | .highlight _ => []
  | .record fields =>
    visitRequired "line" (visitPlain integer) fields ++
      visitRequired "start" (visitPlain integer) fields ++
      visitRequired "end" (visitPlain integer) fields ++
      visitOptional "note" (visitPlain textOrNull) fields ++
      visitOptional "level" (visitPlain level) fields
  | _ => [.ofKind .recordExpected]

def visitExcerptFields (fields : List (String × Datum)) : List Incident :=
  visitOptional "lines" visitLines fields ++
    visitOptional "highlights" (visitSequence visitHighlight) fields ++
    visitOptional "file" (visitPlain textOrNull) fields

/-- The highlights that do not fit on some lines, in their order. -/
def misfits (lines : List SourceLine) (highlights : List Highlight) : List Incident :=
  highlights.filterMap fun h =>
    (h.misfit? lines).map fun misfit => .fault (.highlight h.line h.start h.stop misfit)

def visitHighlights (fields : List (String × Datum)) : List Incident :=
  match optional "lines" [] excerptLines fields,
    optional "highlights" [] (sequence highlight) fields with
  | .valid lines, .valid highlights => misfits lines highlights
  | _, _ => []

def visitExcerpt : Visit
  | .excerpt _ => []
  | .record fields =>
    if visitExcerptFields fields = [] then visitHighlights fields else visitExcerptFields fields
  | _ => [.ofKind .recordExpected]

def visitSite : Visit
  | .null => []
  | .site _ => []
  | .record fields =>
    visitRequired "file" (visitPlain text) fields ++
      visitRequired "line" (visitPlain integer) fields ++
      visitRequired "column" (visitPlain integer) fields
  | _ => [.ofKind .recordExpected]

def visitFinding (fields : List (String × Datum)) : List Incident :=
  visitRequired "identifier" (visitPlain text) fields ++
    visitRequired "title" (visitPlain text) fields ++
    visitOptional "level" (visitPlain level) fields ++
    visitOptional "message" (visitPlain textOrNull) fields ++
    visitOptional "help" (visitPlain textOrNull) fields ++
    visitOptional "doc_url" (visitPlain textOrNull) fields ++
    visitOptional "definition_site" visitSite fields ++
    visitOptional "contexts" (visitSequence visitExcerpt) fields

mutual

def visitReport : Datum → List Incident
  | .report _ => []
  | .record fields =>
    match missingIdentity? fields with
    | some field => [.fault (.missingField field)]
    | none => visitFinding fields ++ visitCause fields
  | _ => [.ofKind .recordExpected]

def visitCause : List (String × Datum) → List Incident
  | [] => []
  | (name, d) :: fields =>
    if name = "cause" then
      match d with
      | .null => []
      | d => (visitReport d).map (.within (.field "cause"))
    else visitCause fields

end

end Validation

/-- What some incidents lead to: the first fault if there is one, else all issues. -/
inductive LeadsTo {α : Type} : List Incident → Checked α → Prop where
  | valid (a : α) : LeadsTo [] (.valid a)
  | invalid {incidents : List Incident} (hfault : firstFault? incidents = none)
      (hsome : incidents ≠ []) : LeadsTo incidents (.invalid (issuesOf incidents))
  | refused {incidents : List Incident} {f : Fault} (hfault : firstFault? incidents = some f) :
      LeadsTo incidents (.refused f)

end Diagnostics
