import Diagnostics.Proofs.Validation.Precedence

/-! # What a check of a report comes to

The faults of a visit come from the records that are looked at as reports: the given one and, as
long as there is identity, the cause of each. Such a record is at fault for lacking identity, or else
for each highlight that does not fit in one of its excerpts that are well typed. With the outcome
that a visit leads to, this settles what a check of a report comes to.
-/
namespace Diagnostics

section Incidents
variable {xs : List Incident} {f : Fault}

theorem mem_of_firstFault? (h : firstFault? xs = some f) : .fault f ∈ xs := by
  obtain ⟨i, hi, hf⟩ := List.exists_of_findSome?_eq_some h
  cases i with
  | issue i => cases hf
  | fault g =>
    cases hf
    exact hi

@[simp] theorem within_eq_fault {step : Step} {i : Incident} :
    i.within step = .fault f ↔ i = .fault f := by
  cases i <;> simp [Incident.within]

@[simp] theorem fault_ne_ofKind (kind : IssueKind) : Incident.fault f ≠ .ofKind kind := by
  simp [Incident.ofKind]

theorem eq_nil_of_issuesOf (hfault : firstFault? xs = none) (h : issuesOf xs = []) : xs = [] := by
  cases xs with
  | nil => rfl
  | cons i xs =>
    cases i with
    | issue i => cases h
    | fault g => cases hfault

end Incidents

namespace Validation
variable {fields : List (String × Datum)} {visit : Visit} {f : Fault} {d : Datum}

@[simp] theorem fault_notMem_visitPlain {α : Type} (check : Check α) :
    .fault f ∉ visitPlain check d := by
  unfold visitPlain
  split <;> simp

@[simp] theorem fault_mem_visitOptional (name : String) :
    .fault f ∈ visitOptional name visit fields ↔
      ∃ d, fields.lookup name = some d ∧ .fault f ∈ visit d := by
  unfold visitOptional
  cases fields.lookup name <;> simp

@[simp] theorem fault_mem_visitRequired (name : String) :
    .fault f ∈ visitRequired name visit fields ↔
      ∃ d, fields.lookup name = some d ∧ .fault f ∈ visit d := by
  unfold visitRequired
  cases fields.lookup name <;> simp

@[simp] theorem fault_mem_visitItemsFrom (first : Nat) (ds : List Datum) :
    .fault f ∈ visitItemsFrom first visit ds ↔ ∃ d ∈ ds, .fault f ∈ visit d := by
  induction ds generalizing first with
  | nil => simp [visitItemsFrom]
  | cons d ds ih => simp [visitItemsFrom_cons, ih]

@[simp] theorem fault_mem_visitSequence :
    .fault f ∈ visitSequence visit d ↔ ∃ ds, d = .list ds ∧ ∃ d ∈ ds, .fault f ∈ visit d := by
  cases d <;> simp [visitSequence]

@[simp] theorem fault_notMem_visitLineFields : .fault f ∉ visitLineFields fields := by
  simp [visitLineFields]

theorem fault_notMem_visitLine : .fault f ∉ visitLine d := by
  unfold visitLine
  split <;> simp

theorem fault_notMem_visitPair : .fault f ∉ visitPair d := by
  unfold visitPair
  split <;> simp

theorem fault_notMem_visitFirstBadPair (ds : List Datum) : .fault f ∉ visitFirstBadPair ds := by
  induction ds with
  | nil => simp [visitFirstBadPair]
  | cons d ds ih =>
    rw [visitFirstBadPair_cons]
    split
    · exact ih
    · exact fault_notMem_visitPair

@[simp] theorem fault_notMem_visitLines : .fault f ∉ visitLines d := by
  unfold visitLines
  split
  · split
    · simp [fault_notMem_visitLine]
    · exact fault_notMem_visitFirstBadPair _
  · simp [fault_notMem_visitLine]
  · simp

@[simp] theorem fault_notMem_visitHighlight : .fault f ∉ visitHighlight d := by
  unfold visitHighlight
  split <;> simp

@[simp] theorem fault_notMem_visitSite : .fault f ∉ visitSite d := by
  unfold visitSite
  split <;> simp

theorem fault_notMem_visitExcerptFields : .fault f ∉ visitExcerptFields fields := by
  simp [visitExcerptFields]

/-- The fields of an excerpt are well typed exactly if nothing comes up in them. -/
theorem visitExcerptFields_eq_nil_iff :
    visitExcerptFields fields = [] ↔ ∃ e, HoldsExcerpt fields e := by
  have hlines := visitLinesField_leadsTo fields
  have hhighlights := visitHighlightsField_leadsTo fields
  have hfile := visitFileField_leadsTo fields
  simp only [visitExcerptFields, List.append_eq_nil_iff, and_assoc]
  constructor
  · rintro ⟨hl, hh, hf⟩
    rw [hl] at hlines
    rw [hh] at hhighlights
    rw [hf] at hfile
    obtain ⟨lines, hl⟩ := hlines.exists_valid
    obtain ⟨highlights, hh⟩ := hhighlights.exists_valid
    obtain ⟨file, hf⟩ := hfile.exists_valid
    exact ⟨⟨lines, highlights, file⟩, hl, hh, hf⟩
  · rintro ⟨e, hl, hh, hf⟩
    rw [hl] at hlines
    rw [hh] at hhighlights
    rw [hf] at hfile
    exact ⟨hlines.eq_nil, hhighlights.eq_nil, hfile.eq_nil⟩

theorem visitHighlights_of_holds {e : Excerpt} (h : HoldsExcerpt fields e) :
    visitHighlights fields = misfits e.lines e.highlights := by
  simp only [visitHighlights, h.lines, h.highlights]

theorem mem_misfits {lines : List SourceLine} {highlights : List Highlight} :
    .fault f ∈ misfits lines highlights ↔ ∃ h ∈ highlights, ∃ misfit,
      h.misfit? lines = some misfit ∧ .highlight h.line h.start h.stop misfit = f := by
  simp only [misfits, List.mem_filterMap, Option.map_eq_some_iff, Incident.fault.injEq]

/-- An excerpt is at fault for each highlight that does not fit, if it is well typed. -/
theorem fault_mem_visitExcerpt :
    .fault f ∈ visitExcerpt d ↔ ∃ block e h misfit, d = .record block ∧ HoldsExcerpt block e ∧
      h ∈ e.highlights ∧ h.misfit? e.lines = some misfit ∧
        .highlight h.line h.start h.stop misfit = f := by
  cases d with
  | record block =>
    rw [visitExcerpt]
    constructor
    · intro hf
      split at hf
      · obtain ⟨e, he⟩ := visitExcerptFields_eq_nil_iff.mp ‹_›
        rw [visitHighlights_of_holds he] at hf
        obtain ⟨h, hh, misfit, hmisfit, heq⟩ := mem_misfits.mp hf
        exact ⟨block, e, h, misfit, rfl, he, hh, hmisfit, heq⟩
      · exact absurd hf fault_notMem_visitExcerptFields
    · rintro ⟨_, e, h, misfit, heq, he, hh, hmisfit, hf⟩
      cases heq
      rw [if_pos (visitExcerptFields_eq_nil_iff.mpr ⟨e, he⟩), visitHighlights_of_holds he]
      exact mem_misfits.mpr ⟨h, hh, misfit, hmisfit, hf⟩
  | _ => simp [visitExcerpt]

theorem fault_mem_visitFinding : .fault f ∈ visitFinding fields ↔
    ∃ ds, fields.lookup "contexts" = some (.list ds) ∧ ∃ d ∈ ds, .fault f ∈ visitExcerpt d := by
  simp [visitFinding]

/-- The records that are looked at as reports. A cause is one if what gives it has identity. -/
inductive Visited : Datum → List (String × Datum) → Prop where
  | here (fields : List (String × Datum)) : Visited (.record fields) fields
  | cause {fields inner : List (String × Datum)} {d : Datum}
      (hidentity : missingIdentity? fields = none) (hd : fields.lookup "cause" = some d)
      (h : Visited d inner) : Visited (.record fields) inner

/-- The faults of a record that is looked at as a report. -/
inductive AtFault (fields : List (String × Datum)) : Fault → Prop where
  | identity {field : IdentityField} (h : missingIdentity? fields = some field) :
      AtFault fields (.missingField field)
  | highlight {ds : List Datum} {block : List (String × Datum)} {e : Excerpt} {h : Highlight}
      {misfit : Misfit} (hidentity : missingIdentity? fields = none)
      (hds : fields.lookup "contexts" = some (.list ds)) (hblock : .record block ∈ ds)
      (he : HoldsExcerpt block e) (hh : h ∈ e.highlights)
      (hmisfit : h.misfit? e.lines = some misfit) :
      AtFault fields (.highlight h.line h.start h.stop misfit)

theorem atFault_of_mem_visitFinding (hidentity : missingIdentity? fields = none)
    (h : .fault f ∈ visitFinding fields) : AtFault fields f := by
  obtain ⟨ds, hds, d, hd, hf⟩ := fault_mem_visitFinding.mp h
  obtain ⟨block, e, h, misfit, rfl, he, hh, hmisfit, rfl⟩ := fault_mem_visitExcerpt.mp hf
  exact .highlight hidentity hds hd he hh hmisfit

theorem fault_mem_visitCause : .fault f ∈ visitCause fields ↔
    ∃ d, fields.lookup "cause" = some d ∧ .fault f ∈ visitReport d := by
  have hvalue : ∀ d, .fault f ∈ visitReportOrNull d ↔ .fault f ∈ visitReport d := by
    intro d
    by_cases hnull : d = .null
    · subst hnull
      simp [visitReportOrNull, visitReport]
    · rw [visitReportOrNull_of_ne hnull]
  simp only [visitCause_eq_optional, fault_mem_visitOptional, hvalue]

theorem visited_of_fault_mem (h : .fault f ∈ visitReport d) :
    ∃ fields, Visited d fields ∧ AtFault fields f := by
  induction d using cause_induction with
  | record fields ih =>
    rw [visitReport] at h
    cases hidentity : missingIdentity? fields with
    | some field =>
      simp only [hidentity, List.mem_singleton, Incident.fault.injEq] at h
      subst h
      exact ⟨fields, .here fields, .identity hidentity⟩
    | none =>
      simp only [hidentity, List.mem_append, fault_mem_visitCause] at h
      rcases h with h | ⟨d, hd, h⟩
      · exact ⟨fields, .here fields, atFault_of_mem_visitFinding hidentity h⟩
      · obtain ⟨inner, hvisited, hfault⟩ := ih d hd h
        exact ⟨inner, .cause hidentity hd hvisited, hfault⟩
  | other d hd =>
    cases d with
    | record fields => exact absurd rfl (hd fields)
    | _ => simp [visitReport] at h

theorem fault_mem_of_atFault (h : AtFault fields f) : .fault f ∈ visitReport (.record fields) := by
  rw [visitReport]
  cases h with
  | identity hidentity => simp [hidentity]
  | highlight hidentity hds hblock he hh hmisfit =>
    simp only [hidentity, List.mem_append, fault_mem_visitFinding]
    exact Or.inl ⟨_, hds, _, hblock, fault_mem_visitExcerpt.mpr
      ⟨_, _, _, _, rfl, he, hh, hmisfit, rfl⟩⟩

theorem fault_mem_of_visited (h : Visited d fields) (hf : AtFault fields f) :
    .fault f ∈ visitReport d := by
  induction h with
  | here fields => exact fault_mem_of_atFault hf
  | cause hidentity hd _ ih =>
    rw [visitReport]
    simp only [hidentity, List.mem_append, fault_mem_visitCause]
    exact Or.inr ⟨_, hd, ih hf⟩

theorem fault_mem_visitReport :
    .fault f ∈ visitReport d ↔ ∃ fields, Visited d fields ∧ AtFault fields f :=
  ⟨visited_of_fault_mem, fun ⟨_, hvisited, hfault⟩ => fault_mem_of_visited hvisited hfault⟩

/-- The outcome of the check of a report, for all data. A record without identity is refused for
that. Otherwise the first fault of the visit is the outcome, whatever issues there are, then all the
issues in their order, and a report only if nothing came up. -/
theorem checkReport_outcome (d : Datum) :
    (∀ fields, d = .record fields → hasField "identifier" fields = false →
      checkReport d = .error (.missingField .identifier)) ∧
    (∀ fields, d = .record fields → hasField "identifier" fields = true →
      hasField "title" fields = false → checkReport d = .error (.missingField .title)) ∧
    (∀ f, .fault f ∈ visitReport d ↔ ∃ fields, Visited d fields ∧ AtFault fields f) ∧
    (∀ f, firstFault? (visitReport d) = some f → checkReport d = .error f ∧
      ∀ issues, f ≠ .invalid issues) ∧
    (firstFault? (visitReport d) = none → issuesOf (visitReport d) ≠ [] →
      checkReport d = .error (.invalid (issuesOf (visitReport d)))) ∧
    (firstFault? (visitReport d) = none → issuesOf (visitReport d) = [] →
      ∃ r, checkReport d = .ok r) := by
  have hleads := visitReport_leadsTo d
  refine ⟨?_, ?_, fun f => fault_mem_visitReport, ?_, ?_, ?_⟩
  · rintro fields rfl hidentifier
    exact checkReport_of_missingIdentity? (missingIdentity?_of_no_identifier hidentifier)
  · rintro fields rfl hidentifier htitle
    exact checkReport_of_missingIdentity? (missingIdentity?_of_no_title hidentifier htitle)
  · intro f hf
    obtain ⟨fields, -, hfault⟩ := visited_of_fault_mem (mem_of_firstFault? hf)
    refine ⟨by rw [checkReport, hleads.eq_refused hf]; rfl, ?_⟩
    rintro issues rfl
    cases hfault
  · intro hfault hissues
    rw [checkReport, hleads.eq_invalid hfault hissues]
    rfl
  · intro hfault hissues
    rw [eq_nil_of_issuesOf hfault hissues] at hleads
    obtain ⟨r, hr⟩ := hleads.exists_valid
    exact ⟨r, Checked.toExcept_eq_ok.mpr hr⟩

/-- A report with an unknown level and with a cause whose help is no text. Of its three excerpts the
first and the last are badly typed; the second has a highlight that fits and one up to `stop`. -/
def tangled (stop : Int) (causeCode : String) : Datum :=
  .record [("identifier", .text "E1"), ("title", .text "tangled"), ("level", .int 7),
    ("contexts", .list [
      .record [("lines", .list [.list [.int 0, .text "a"]]),
        ("highlights", .list [.record [("line", .int 5), ("start", .int 0), ("end", .int 1)]])],
      .record [("lines", .list [.list [.int 1, .text "ab"]]),
        ("highlights", .list [.record [("line", .int 1), ("start", .int 0), ("end", .int 2)],
          .record [("line", .int 1), ("start", .int 0), ("end", .int stop)]])],
      .int 3]),
    ("cause", .record [("identifier", .text causeCode), ("title", .text "cause"),
      ("help", .int 1)])]

theorem checkReport_tangled :
    checkReport (tangled 9 "") = .error (.highlight 1 0 9 (.endPastLine 2)) ∧
    checkReport (tangled 2 "") = .error (.missingField .identifier) ∧
    checkReport (tangled 2 "E2") = .error (.invalid [⟨[.field "level"], .levelUnknown⟩,
      ⟨[.field "contexts", .index 0, .field "lines", .field "number"], .belowMinimum⟩,
      ⟨[.field "contexts", .index 2], .recordExpected⟩,
      ⟨[.field "cause", .field "help"], .textExpected⟩]) := by
  refine ⟨?_, ?_, ?_⟩
  · exact ((checkReport_outcome (tangled 9 "")).2.2.2.1 _ rfl).1
  · exact ((checkReport_outcome (tangled 2 "")).2.2.2.1 _ rfl).1
  · exact (checkReport_outcome (tangled 2 "E2")).2.2.2.2.1 rfl (by decide)

end Validation

end Diagnostics
