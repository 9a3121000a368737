import Diagnostics.Conversion
import Diagnostics.Proofs.Success
import Diagnostics.Proofs.Validation.DataForm

/-! # What a conversion makes

A conversion that succeeds wraps the report in a bare finding with the resolved code, the given title
and the level of the report. It succeeds exactly if the identifier resolves and neither the code nor
the title is empty.
-/
namespace Diagnostics

/-- The data that a wrapper is made from. -/
def Report.wrapFields (code : String) (title : Datum) (r : Report) : List (String × Datum) :=
  [("identifier", .text code), ("title", title), ("level", .text r.level.word), ("cause", .report r)]

namespace Validation
variable {code : String} {title : Datum} {r : Report}

theorem isGiven_text (s : String) : Datum.isGiven (.text s) = decide (s ≠ "") := rfl

theorem missingIdentity?_wrapFields :
    missingIdentity? (r.wrapFields code title) = none ↔ code ≠ "" ∧ title.isGiven = true := by
  by_cases hcode : code = "" <;> cases ht : title.isGiven <;>
    simp [Report.wrapFields, missingIdentity?, hasField, List.lookup_cons, isGiven_text, hcode, ht]

theorem finding_wrapFields {f : Finding} :
    finding (r.wrapFields code title) = .valid f ↔ ∃ t, title = .text t ∧ f = .bare code t r.level := by
  cases title with
  | text t =>
    simp [Report.wrapFields, finding, required, optional, List.lookup_cons, text, Checked.within,
      Checked.map, Checked.seq, Finding.bare, eq_comm]
  | _ =>
    simp [Report.wrapFields, finding, required, optional, List.lookup_cons, text, Checked.within,
      Checked.map, Checked.seq, Checked.issue]

theorem cause_wrapFields : cause (r.wrapFields code title) = .valid (some r) := by
  simp [Report.wrapFields, cause, report, Checked.within, Checked.map]

end Validation

namespace Report

theorem wrap_eq_ok_iff {code : String} {title : Datum} {r wrapper : Report} :
    r.wrap code title = .ok wrapper ↔ ∃ t : String, code ≠ "" ∧ t ≠ "" ∧ title = .text t ∧
      wrapper = .wrapping (.bare code t r.level) r := by
  have hcheck : r.wrap code title = .ok wrapper ↔
      Validation.report (.record (r.wrapFields code title)) = .valid wrapper := Checked.toExcept_eq_ok
  rw [hcheck, Validation.report_record_eq_valid, Validation.missingIdentity?_wrapFields]
  simp only [Validation.finding_wrapFields, Validation.cause_wrapFields]
  constructor
  · rintro ⟨⟨hcode, hgiven⟩, f, c, ⟨t, rfl, rfl⟩, hc, rfl⟩
    cases hc
    exact ⟨t, hcode, by simpa [Validation.isGiven_text] using hgiven, rfl, rfl⟩
  · rintro ⟨t, hcode, ht, rfl, rfl⟩
    exact ⟨⟨hcode, by simpa [Validation.isGiven_text] using ht⟩, _, _, ⟨t, rfl, rfl⟩, rfl, rfl⟩

/-- A conversion that succeeds resolves the identifier and wraps the report. -/
theorem wrap_of_convert {identifier : Variant} {title : Datum} {r wrapper : Report}
    {s s' : Session} (h : r.convert identifier title s = .ok wrapper s') :
    ∃ resolved t, Session.identify identifier s = .ok resolved t ∧
      r.wrap resolved.code title = .ok wrapper := by
  obtain ⟨resolved, t, hresolved, h⟩ := action_bind_eq_ok_iff.mp h
  obtain ⟨wrapped, u, hwrap, h⟩ := action_bind_eq_ok_iff.mp h
  obtain ⟨-, v, -, h⟩ := action_bind_eq_ok_iff.mp h
  cases h
  exact ⟨resolved, t, hresolved, (ofExcept_eq_ok_iff.mp hwrap).1⟩

end Report

end Diagnostics
