import Diagnostics.Keyed
import Mathlib.Data.List.Perm.Basic
import Mathlib.Data.List.Sort
import Mathlib.Data.String.Basic

/-! # Values under distinct keys

Where every key stands once, a value is found under a key exactly if the two stand together, so the
order of the entries does not matter. Putting a value in keeps the keys apart.
-/
namespace Diagnostics

namespace Keyed
variable {κ α : Type} [BEq κ] [LawfulBEq κ]

theorem mem_of_lookup {key : κ} {value : α} {entries : Keyed κ α}
    (h : entries.lookup key = some value) : (key, value) ∈ entries := by
  induction entries with
  | nil => cases h
  | cons e rest ih =>
    rw [List.lookup_cons] at h
    split at h
    · rename_i hkey
      rw [eq_of_beq hkey, ← Option.some.inj h]
      exact List.mem_cons_self
    · exact List.mem_cons_of_mem _ (ih h)

theorem lookup_eq_some_iff_mem {key : κ} {value : α} {entries : Keyed κ α}
    (hkeys : entries.keys.Nodup) : entries.lookup key = some value ↔ (key, value) ∈ entries := by
  refine ⟨mem_of_lookup, ?_⟩
  intro h
  induction entries with
  | nil => cases h
  | cons e rest ih =>
    obtain ⟨hnew, hrest⟩ := List.nodup_cons.mp hkeys
    rcases List.mem_cons.mp h with rfl | hmem
    · simp
    · have hne : (key == e.1) = false := by
        rw [beq_eq_false_iff_ne]
        rintro rfl
        exact hnew (List.mem_map.mpr ⟨_, hmem, rfl⟩)
      rw [List.lookup_cons, hne]
      exact ih hrest hmem

theorem lookup_eq_of_perm {key : κ} {xs ys : Keyed κ α} (hkeys : xs.keys.Nodup)
    (h : xs.Perm ys) : xs.lookup key = ys.lookup key := by
  have hys : ys.keys.Nodup := (h.map Prod.fst).nodup_iff.mp hkeys
  apply Option.ext
  intro value
  rw [lookup_eq_some_iff_mem hkeys, lookup_eq_some_iff_mem hys, h.mem_iff]

theorem not_mem_keys_remove (key : κ) (entries : Keyed κ α) : key ∉ (remove key entries).keys := by
  simp [remove, keys]

theorem remove_of_not_mem {key : κ} {entries : Keyed κ α} (h : key ∉ entries.keys) :
    remove key entries = entries := by
  refine List.filter_eq_self.mpr ?_
  intro e he
  have hne : key ≠ e.1 := by
    rintro rfl
    exact h (List.mem_map_of_mem he)
  simp [hne]

/-- Up to the order, what is put under a key comes to the entries that have other keys. -/
theorem put_perm {key : κ} {entries : Keyed κ α} (value : α) (hkeys : entries.keys.Nodup) :
    (put key value entries).Perm ((key, value) :: remove key entries) := by
  induction entries with
  | nil => exact List.Perm.refl _
  | cons e rest ih =>
    obtain ⟨hnew, hrest⟩ := List.nodup_cons.mp hkeys
    obtain ⟨k, v⟩ := e
    by_cases hk : key == k
    · obtain rfl := eq_of_beq hk
      have hremove : remove key ((key, v) :: rest) = rest := by
        have hr := remove_of_not_mem hnew
        simpa [remove] using hr
      rw [hremove]
      simp [put]
    · have hremove : remove key ((k, v) :: rest) = (k, v) :: remove key rest := by
        simp [remove, hk]
      rw [hremove]
      simp only [put, hk, Bool.false_eq_true, if_false]
      exact ((ih hrest).cons (k, v)).trans (List.Perm.swap _ _ _)

theorem nodup_keys_put {key : κ} {entries : Keyed κ α} (value : α) (hkeys : entries.keys.Nodup) :
    (put key value entries).keys.Nodup := by
  refine ((put_perm value hkeys).map Prod.fst).nodup_iff.mpr ?_
  refine List.nodup_cons.mpr ⟨not_mem_keys_remove key entries, ?_⟩
  exact hkeys.sublist (List.filter_sublist.map _)

theorem eq_or_mem_of_mem_put {key : κ} {value : α} {entries : Keyed κ α}
    (hkeys : entries.keys.Nodup) {e : κ × α} (he : e ∈ put key value entries) :
    e = (key, value) ∨ e ∈ entries := by
  rcases List.mem_cons.mp ((put_perm value hkeys).mem_iff.mp he) with hnew | hold
  · exact .inl hnew
  · exact .inr (List.mem_of_mem_filter hold)

end Keyed

theorem sortedNames_eq_of_perm {xs ys : List String} (h : xs.Perm ys) :
    sortedNames xs = sortedNames ys := by
  unfold sortedNames
  have hperm := ((List.mergeSort_perm xs fun a b => decide (a ≤ b)).trans h).trans
    (List.mergeSort_perm ys fun a b => decide (a ≤ b)).symm
  exact hperm.eq_of_pairwise' (List.pairwise_mergeSort' (· ≤ ·) xs)
    (List.pairwise_mergeSort' (· ≤ ·) ys)

end Diagnostics
