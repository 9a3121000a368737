/-!
# Values under keys

Values under keys, in the order in which the keys first came in. A value that is put under a key
again takes the place of the one before it.
-/
namespace Diagnostics

/-- Values under keys, in the order in which the keys first came in. -/
abbrev Keyed (κ α : Type) := List (κ × α)

namespace Keyed
variable {κ α : Type} [BEq κ]

def put (key : κ) (value : α) : Keyed κ α → Keyed κ α
  | [] => [(key, value)]
  | (k, v) :: rest => if key == k then (k, value) :: rest else (k, v) :: put key value rest

def remove (key : κ) (entries : Keyed κ α) : Keyed κ α :=
  entries.filter fun e => !(key == e.1)

def keys (entries : Keyed κ α) : List κ :=
  entries.map Prod.fst

@[simp] theorem lookup_put_self [LawfulBEq κ] (key : κ) (value : α) (entries : Keyed κ α) :
    (put key value entries).lookup key = some value := by
  induction entries with
  | nil => simp [put]
  | cons e rest ih =>
    obtain ⟨k, v⟩ := e
    by_cases h : key == k
    · simp [put, List.lookup_cons, h]
    · simp [put, List.lookup_cons, h, ih]

theorem lookup_put_of_ne [LawfulBEq κ] {key other : κ} (h : other ≠ key) (value : α)
    (entries : Keyed κ α) : (put key value entries).lookup other = entries.lookup other := by
  have ho : (other == key) = false := by simpa using h
  induction entries with
  | nil => simp [put, List.lookup_cons, ho]
  | cons e rest ih =>
    obtain ⟨k, v⟩ := e
    by_cases hk : key == k
    · obtain rfl := eq_of_beq hk
      simp [put, List.lookup_cons, ho]
    · simp only [put, hk, Bool.false_eq_true, if_false, List.lookup_cons]
      rw [ih]

end Keyed

def sortedNames (names : List String) : List String :=
  names.mergeSort fun a b => decide (a ≤ b)

end Diagnostics
