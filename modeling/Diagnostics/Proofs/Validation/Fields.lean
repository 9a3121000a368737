import Diagnostics.Validation.Report
import Mathlib.Data.List.Forall2

/-! # Valid outcomes of checks

A check of several parts is valid exactly if every part is, and its value is then made of the values
of the parts.
-/
namespace Diagnostics

namespace Checked
variable {α β : Type}

@[simp] theorem map_eq_valid {f : α → β} {x : Checked α} {b : β} :
    x.map f = .valid b ↔ ∃ a, x = .valid a ∧ f a = b := by
  cases x <;> simp [map]

@[simp] theorem seq_valid_iff {f : Checked (α → β)} {x : Checked α} {b : β} :
    f.seq x = .valid b ↔ ∃ g a, f = .valid g ∧ x = .valid a ∧ g a = b := by
  cases f <;> cases x <;> simp [seq, map]

@[simp] theorem andThen_eq_valid {x : Checked α} {f : α → Checked β} {b : β} :
    x.andThen f = .valid b ↔ ∃ a, x = .valid a ∧ f a = .valid b := by
  cases x <;> simp [andThen]

@[simp] theorem within_eq_valid {step : Step} {x : Checked α} {a : α} :
    x.within step = .valid a ↔ x = .valid a := by
  cases x <;> simp [within]

@[simp] theorem ofExcept_eq_valid {x : Except Fault α} {a : α} :
    ofExcept x = .valid a ↔ x = .ok a := by
  cases x <;> simp [ofExcept]

end Checked

namespace Validation
variable {α : Type}

theorem required_eq_valid {name : String} {check : Check α} {fields : List (String × Datum)} {a : α} :
    required name check fields = .valid a ↔
      ∃ d, fields.lookup name = some d ∧ check d = .valid a := by
  unfold required
  cases fields.lookup name <;> simp

theorem optional_eq_valid {name : String} {default : α} {check : Check α}
    {fields : List (String × Datum)} {a : α} :
    optional name default check fields = .valid a ↔
      (fields.lookup name = none ∧ default = a) ∨
        ∃ d, fields.lookup name = some d ∧ check d = .valid a := by
  unfold optional
  cases fields.lookup name <;> simp

/-- A field whose value passes its check is valid, whether or not it is required. -/
theorem required_of_lookup {name : String} {check : Check α} {fields : List (String × Datum)}
    {d : Datum} {a : α} (h : fields.lookup name = some d) (hd : check d = .valid a) :
    required name check fields = .valid a :=
  required_eq_valid.mpr ⟨d, h, hd⟩

theorem optional_of_lookup {name : String} {default : α} {check : Check α}
    {fields : List (String × Datum)} {d : Datum} {a : α} (h : fields.lookup name = some d)
    (hd : check d = .valid a) : optional name default check fields = .valid a :=
  optional_eq_valid.mpr (Or.inr ⟨d, h, hd⟩)

theorem items_eq_valid {check : Check α} {first : Nat} {ds : List Datum} {as : List α} :
    items check first ds = .valid as ↔ List.Forall₂ (fun d a => check d = .valid a) ds as := by
  induction ds generalizing first as with
  | nil => cases as <;> simp [items]
  | cons d ds ih =>
    simp only [items, Checked.map_eq, Checked.seq_eq, Checked.seq_valid_iff, Checked.map_eq_valid,
      Checked.within_eq_valid, ih, List.forall₂_cons_left_iff]
    constructor
    · rintro ⟨_, as, ⟨a, ha, rfl⟩, has, rfl⟩
      exact ⟨a, as, ha, has, rfl⟩
    · rintro ⟨a, as, ha, has, rfl⟩
      exact ⟨List.cons a, as, ⟨a, ha, rfl⟩, has, rfl⟩

theorem exists_of_mem_items {check : Check α} {first : Nat} {ds : List Datum} {as : List α}
    (h : items check first ds = .valid as) {a : α} (ha : a ∈ as) :
    ∃ d ∈ ds, check d = .valid a := by
  obtain ⟨i, hi, rfl⟩ := List.mem_iff_getElem.mp ha
  have hall := items_eq_valid.mp h
  have hi' : i < ds.length := hall.length_eq ▸ hi
  exact ⟨ds[i], List.getElem_mem hi', hall.get hi' hi⟩

theorem one_le_of_positive {d : Datum} {n : Int} (h : positive d = .valid n) : 1 ≤ n := by
  obtain ⟨m, -, hm⟩ := Checked.andThen_eq_valid.mp h
  split at hm
  · cases hm
  · cases hm
    omega

theorem one_le_of_lineFields {fields : List (String × Datum)} {l : SourceLine}
    (h : lineFields fields = .valid l) : 1 ≤ l.number := by
  simp only [lineFields, Checked.map_eq, Checked.seq_eq, Checked.seq_valid_iff,
    Checked.map_eq_valid, required_eq_valid] at h
  obtain ⟨_, t, ⟨n, ⟨d, -, hn⟩, rfl⟩, -, rfl⟩ := h
  exact one_le_of_positive hn

theorem sourceLine_eq_valid {d : Datum} {l : SourceLine} (h : sourceLine d = .valid l) :
    d = .line l ∨ ∃ fields, lineFields fields = .valid l := by
  cases d with
  | line l' =>
    cases h
    exact Or.inl rfl
  | record fields => exact Or.inr ⟨fields, h⟩
  | _ => cases h

/-- Joining pairs brings in no lines but checked ones. -/
theorem joinPairs_eq_valid {ds joined : List Datum} (h : joinPairs ds = .valid joined)
    {l : SourceLine} (hl : Datum.line l ∈ joined) :
    Datum.line l ∈ ds ∨ ∃ fields, lineFields fields = .valid l := by
  induction ds using joinPairs.induct generalizing joined with
  | case1 =>
    cases h
    cases hl
  | case2 number text ds ih =>
    simp only [joinPairs, Checked.andThen_eq_valid, Checked.map_eq_valid] at h
    obtain ⟨m, hm, rest, hrest, rfl⟩ := h
    rcases List.mem_cons.mp hl with heq | hl
    · cases heq
      exact Or.inr ⟨_, hm⟩
    · exact (ih hrest hl).imp_left (List.mem_cons_of_mem _)
  | case3 d ds hpair ih =>
    rw [joinPairs] at h
    · obtain ⟨rest, hrest, rfl⟩ := Checked.map_eq_valid.mp h
      rcases List.mem_cons.mp hl with rfl | hl
      · exact Or.inl List.mem_cons_self
      · exact (ih hrest hl).imp_left (List.mem_cons_of_mem _)
    · exact hpair

theorem report_record_eq_valid {fields : List (String × Datum)} {r : Report} :
    report (.record fields) = .valid r ↔ missingIdentity? fields = none ∧
      ∃ f c, finding fields = .valid f ∧ cause fields = .valid c ∧ r = Report.make f c := by
  rw [report]
  cases missingIdentity? fields with
  | some field => simp
  | none =>
    simp only [Checked.map_eq, Checked.seq_eq, Checked.seq_valid_iff, Checked.map_eq_valid, true_and]
    constructor
    · rintro ⟨_, c, ⟨f, hf, rfl⟩, hc, rfl⟩
      exact ⟨f, c, hf, hc, rfl⟩
    · rintro ⟨f, c, hf, hc, rfl⟩
      exact ⟨_, c, ⟨f, hf, rfl⟩, hc, rfl⟩

end Validation

end Diagnostics
