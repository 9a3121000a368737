import Diagnostics.Validation.Excerpt

/-!
# Checking reports

A record without an identifier or a title is refused before anything else of it is looked at. The
other fields are then checked in order, the cause last and in the same way.
-/
namespace Diagnostics.Validation

def site : Check Site
  | .site s => .valid s
  | .record fields =>
    Site.mk <$> required "file" text fields <*> required "line" integer fields
      <*> required "column" integer fields
  | _ => .issue .recordExpected

def siteOrNull : Check (Option Site)
  | .null => .valid none
  | d => (site d).map some

def hasField (name : String) (fields : List (String × Datum)) : Bool :=
  match fields.lookup name with
  | some d => d.isGiven
  | none => false

/-- The identity field that a record lacks, the identifier first. -/
def missingIdentity? (fields : List (String × Datum)) : Option IdentityField :=
  if !hasField "identifier" fields then some .identifier
  else if !hasField "title" fields then some .title
  else none

def finding (fields : List (String × Datum)) : Checked Finding :=
  Finding.mk <$> required "identifier" text fields <*> required "title" text fields
    <*> optional "level" .error level fields <*> optional "message" none textOrNull fields
    <*> optional "help" none textOrNull fields <*> optional "doc_url" none textOrNull fields
    <*> optional "definition_site" none siteOrNull fields
    <*> optional "contexts" [] (sequence excerpt) fields

mutual

def report : Datum → Checked Report
  | .report r => .valid r
  | .record fields =>
    match missingIdentity? fields with
    | some field => .refused (.missingField field)
    | none => Report.make <$> finding fields <*> cause fields
  | _ => .issue .recordExpected

/-- The cause that a record gives, if it gives one. -/
def cause : List (String × Datum) → Checked (Option Report)
  | [] => .valid none
  | (name, d) :: fields =>
    if name = "cause" then
      match d with
      | .null => .valid none
      | d => ((report d).map some).within (.field "cause")
    else cause fields

end

def checkReport (d : Datum) : Except Fault Report := (report d).toExcept

end Diagnostics.Validation
