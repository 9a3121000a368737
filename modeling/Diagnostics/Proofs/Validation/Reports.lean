import Diagnostics.Proofs.Keyed
import Diagnostics.Proofs.Validation.Fields

/-! # What a checked report is made of

A record that passes holds its finding field by field, and its identifier and title are texts with
something in them, since a record that lacks either is refused before anything else. Its cause is
one more optional field, checked in the same way as the record itself.
-/
namespace Diagnostics

namespace Validation
variable {fields : List (String × Datum)}

/-- The fields of a record hold a finding. -/
structure HoldsFinding (fields : List (String × Datum)) (f : Finding) : Prop where
  identifier : required "identifier" text fields = .valid f.identifier
  title : required "title" text fields = .valid f.title
  level : optional "level" .error level fields = .valid f.level
  message : optional "message" none textOrNull fields = .valid f.message
  help : optional "help" none textOrNull fields = .valid f.help
  docUrl : optional "doc_url" none textOrNull fields = .valid f.docUrl
  site : optional "definition_site" none siteOrNull fields = .valid f.site
  excerpts : optional "contexts" [] (sequence excerpt) fields = .valid f.excerpts

theorem finding_eq_valid {f : Finding} : finding fields = .valid f ↔ HoldsFinding fields f := by
  simp only [finding, Checked.map_eq, Checked.seq_eq, Checked.seq_valid_iff, Checked.map_eq_valid]
  constructor
  · rintro ⟨_, excerpts, ⟨_, site, ⟨_, url, ⟨_, help, ⟨_, message, ⟨_, level, ⟨_, title,
      ⟨identifier, hidentifier, rfl⟩, htitle, rfl⟩, hlevel, rfl⟩, hmessage, rfl⟩, hhelp, rfl⟩, hurl,
      rfl⟩, hsite, rfl⟩, hexcerpts, rfl⟩
    exact ⟨hidentifier, htitle, hlevel, hmessage, hhelp, hurl, hsite, hexcerpts⟩
  · rintro ⟨hidentifier, htitle, hlevel, hmessage, hhelp, hurl, hsite, hexcerpts⟩
    exact ⟨_, _, ⟨_, _, ⟨_, _, ⟨_, _, ⟨_, _, ⟨_, _, ⟨_, _, ⟨_, hidentifier, rfl⟩, htitle, rfl⟩,
      hlevel, rfl⟩, hmessage, rfl⟩, hhelp, rfl⟩, hurl, rfl⟩, hsite, rfl⟩, hexcerpts, rfl⟩

theorem text_eq_valid {d : Datum} {s : String} : text d = .valid s ↔ d = .text s := by
  cases d <;> simp [text, Checked.issue]

theorem lookup_of_required_text {name s : String}
    (h : required name text fields = .valid s) : fields.lookup name = some (.text s) := by
  obtain ⟨d, hd, hs⟩ := required_eq_valid.mp h
  rw [hd, text_eq_valid.mp hs]

/-- A field that is given and a text has something in it. -/
theorem ne_empty_of_hasField {name s : String} (hgiven : hasField name fields = true)
    (h : required name text fields = .valid s) : s ≠ "" := by
  unfold hasField at hgiven
  rw [lookup_of_required_text h] at hgiven
  simpa [Datum.isGiven] using hgiven

theorem missingIdentity?_of_no_identifier (h : hasField "identifier" fields = false) :
    missingIdentity? fields = some .identifier := by
  simp [missingIdentity?, h]

theorem missingIdentity?_of_no_title (hidentifier : hasField "identifier" fields = true)
    (h : hasField "title" fields = false) : missingIdentity? fields = some .title := by
  simp [missingIdentity?, hidentifier, h]

theorem checkReport_of_missingIdentity? {field : IdentityField}
    (h : missingIdentity? fields = some field) :
    checkReport (.record fields) = .error (.missingField field) := by
  rw [checkReport, report, h]
  rfl

theorem hasField_of_missingIdentity?_eq_none (h : missingIdentity? fields = none) :
    hasField "identifier" fields = true ∧ hasField "title" fields = true := by
  unfold missingIdentity? at h
  cases hidentifier : hasField "identifier" fields <;> cases htitle : hasField "title" fields <;>
    simp [hidentifier, htitle] at h ⊢

theorem sizeOf_lt_of_lookup {name : String} {d : Datum} (h : fields.lookup name = some d) :
    sizeOf d < sizeOf fields := by
  have hlt := List.sizeOf_lt_of_mem (Keyed.mem_of_lookup h)
  simp only [Prod.mk.sizeOf_spec] at hlt
  omega

/-- Induction on data along causes: a record is settled once the cause that it gives is. -/
theorem cause_induction {motive : Datum → Prop}
    (record : ∀ fields, (∀ d, fields.lookup "cause" = some d → motive d) → motive (.record fields))
    (other : ∀ d, (∀ fields, d ≠ .record fields) → motive d) (d : Datum) : motive d := by
  cases d with
  | record fields =>
    refine record fields fun d hd => ?_
    have hsize := sizeOf_lt_of_lookup hd
    exact cause_induction record other d
  | _ => exact other _ nofun
termination_by sizeOf d
decreasing_by
  subst_vars
  simp only [Datum.record.sizeOf_spec]
  omega

/-- A report that may be missing. -/
def reportOrNull : Check (Option Report)
  | .null => .valid none
  | d => (report d).map some

theorem reportOrNull_of_ne {d : Datum} (h : d ≠ .null) :
    reportOrNull d = (report d).map some := by
  cases d <;> first | rfl | exact absurd rfl h

/-- A search that goes through the fields one by one for a name is a lookup. -/
theorem eq_elim_lookup {β : Type} {search : List (String × Datum) → β} {name : String} {absent : β}
    {found : Datum → β} (hnil : search [] = absent)
    (hcons : ∀ n d fields, search ((n, d) :: fields) = if n = name then found d else search fields)
    (fields : List (String × Datum)) : search fields = (fields.lookup name).elim absent found := by
  induction fields with
  | nil => exact hnil
  | cons field fields ih =>
    obtain ⟨n, d⟩ := field
    rw [hcons, List.lookup_cons]
    by_cases h : n = name
    · subst h
      simp
    · have hother : (name == n) = false := by simpa using Ne.symm h
      rw [if_neg h, hother, ih]

/-- The cause is one more optional field. -/
theorem cause_eq_optional (fields : List (String × Datum)) :
    cause fields = optional "cause" none reportOrNull fields := by
  have hsearch : cause fields = (fields.lookup "cause").elim (.valid none)
      fun d => (reportOrNull d).within (.field "cause") := by
    refine eq_elim_lookup (by rw [cause]) (fun n d fields => ?_) fields
    by_cases hnull : d = .null
    · subst hnull
      rw [cause]
      rfl
    · rw [cause, reportOrNull_of_ne hnull]
      exact hnull
  rw [hsearch, optional]
  cases fields.lookup "cause" <;> rfl

theorem lookup_of_cause_eq_valid {c : Report} (h : cause fields = .valid (some c)) :
    ∃ d, fields.lookup "cause" = some d ∧ report d = .valid c := by
  rw [cause_eq_optional] at h
  rcases optional_eq_valid.mp h with ⟨-, hnone⟩ | ⟨d, hd, hvalid⟩
  · cases hnone
  · by_cases hnull : d = .null
    · subst hnull
      cases hvalid
    · rw [reportOrNull_of_ne hnull] at hvalid
      exact ⟨d, hd, by simpa using hvalid⟩

end Validation

end Diagnostics
