import Diagnostics.Text.Numeral
import Mathlib.Data.List.TakeWhile
import Mathlib.Data.Nat.Digits.Lemmas

/-! # Numerals that are read and numbers that are written

A number that is read from a word has no more digits than a numeral may have, since the digits that
are counted first are all the digits of the word if it is a numeral. A number is written with the
digits `0` to `9`, and perhaps a minus sign.
-/
namespace Diagnostics.Text

section Reading
variable {value? : Char → Option Nat} {cs word : List Char} {ds : List Nat}

/-- A numeral consists of digits and underscores, and the digits are read one by one. -/
theorem forall_mem_of_readDigits? (h : readDigits? value? cs = some ds) :
    (∀ c ∈ cs, c = '_' ∨ (value? c).isSome = true) ∧ ∀ d ∈ ds, ∃ c, value? c = some d := by
  fun_induction readDigits? value? cs generalizing ds with
  | case1 => cases h
  | case2 c =>
    obtain ⟨d, hd, rfl⟩ := Option.map_eq_some_iff.mp h
    refine ⟨?_, List.forall_mem_singleton.mpr ⟨c, hd⟩⟩
    exact List.forall_mem_singleton.mpr (.inr (Option.isSome_of_eq_some hd))
  | case3 c cs ih =>
    obtain ⟨d, hd, hrest⟩ := Option.bind_eq_some_iff.mp h
    obtain ⟨more, hmore, hds⟩ := Option.bind_eq_some_iff.mp hrest
    cases hds
    obtain ⟨hcs, hds⟩ := ih hmore
    refine ⟨?_, List.forall_mem_cons.mpr ⟨⟨c, hd⟩, hds⟩⟩
    refine List.forall_mem_cons.mpr ⟨.inr (Option.isSome_of_eq_some hd), ?_⟩
    exact List.forall_mem_cons.mpr ⟨.inl rfl, hcs⟩
  | case4 c cs _ _ ih =>
    obtain ⟨d, hd, hrest⟩ := Option.bind_eq_some_iff.mp h
    obtain ⟨more, hmore, hds⟩ := Option.bind_eq_some_iff.mp hrest
    cases hds
    obtain ⟨hcs, hds⟩ := ih hmore
    refine ⟨?_, List.forall_mem_cons.mpr ⟨⟨c, hd⟩, hds⟩⟩
    exact List.forall_mem_cons.mpr ⟨.inr (Option.isSome_of_eq_some hd), hcs⟩

theorem leadingDigits_of_readDigits? (h : readDigits? digitValue? cs = some ds) :
    leadingDigits cs = some ds := by
  have hall : cs.takeWhile (fun c => c == '_' || (digitValue? c).isSome) = cs := by
    rw [List.takeWhile_eq_self_iff]
    intro c hc
    rcases (forall_mem_of_readDigits? h).1 c hc with rfl | hdigit
    · rfl
    · rw [hdigit, Bool.or_true]
  rw [leadingDigits, hall, h]

theorem ofDigits_eq (ds : List Nat) : ofDigits ds = Nat.ofDigits 10 ds.reverse := by
  rw [Nat.ofDigits_eq_foldr, List.foldr_reverse]
  simp only [ofDigits, Nat.add_comm, Nat.cast_id]

@[simp] theorem natAbs_signed (negative : Bool) (n : Nat) : (signed negative n).natAbs = n := by
  cases negative <;> simp [signed]

/-- A word is read as a number exactly if all of it behind the sign is a numeral that is not too
long: the digits that are counted first are then all of its digits. -/
theorem readNumeral_eq_ok_iff {n : Int} :
    readNumeral word = .ok n ↔ ∃ ds, readDigits? digitValue? (splitSign word).2 = some ds ∧
      ds.length ≤ maxNumeralDigits ∧ signed (splitSign word).1 (ofDigits ds) = n := by
  unfold readNumeral
  dsimp only
  constructor
  · intro h
    cases hleading : leadingDigits (splitSign word).2 with
    | none =>
      rw [hleading] at h
      cases h
    | some leading =>
      rw [hleading] at h
      dsimp only at h
      split at h
      · cases h
      · next hlength =>
        cases hds : readDigits? digitValue? (splitSign word).2 with
        | none =>
          rw [hds] at h
          cases h
        | some ds =>
          rw [hds] at h
          obtain rfl := Option.some.inj (hleading.symm.trans (leadingDigits_of_readDigits? hds))
          exact ⟨leading, rfl, Nat.le_of_not_lt hlength, Except.ok.inj h⟩
  · rintro ⟨ds, hds, hlength, rfl⟩
    rw [leadingDigits_of_readDigits? hds, hds]
    exact if_neg (Nat.not_lt_of_le hlength)

theorem natAbs_lt_of_readNumeral {n : Int} (h : readNumeral word = .ok n) :
    n.natAbs < 10 ^ maxNumeralDigits := by
  obtain ⟨ds, hds, hlength, rfl⟩ := readNumeral_eq_ok_iff.mp h
  have hdigits : ∀ d ∈ ds.reverse, d < 10 := by
    intro d hd
    obtain ⟨c, hc⟩ := (forall_mem_of_readDigits? hds).2 d (List.mem_reverse.mp hd)
    exact digitValue?_lt hc
  have hlt : ofDigits ds < 10 ^ ds.length := by
    have hbound := Nat.ofDigits_lt_base_pow_length (by decide) hdigits
    rwa [List.length_reverse, ← ofDigits_eq] at hbound
  rw [natAbs_signed]
  exact hlt.trans_le (Nat.pow_le_pow_right (by decide) hlength)

end Reading

theorem isDigit_of_mem_natural {n : Nat} {c : Char} (h : c ∈ (natural n).toList) :
    c.isDigit = true := by
  rw [natural, String.toList_ofList] at h
  exact Nat.isDigit_of_mem_toDigits (by decide) (by decide) h

theorem eq_minus_or_isDigit_of_mem_decimal {n : Int} {c : Char} (h : c ∈ (decimal n).toList) :
    c = '-' ∨ c.isDigit = true := by
  cases n with
  | ofNat n => exact .inr (isDigit_of_mem_natural h)
  | negSucc n =>
    rw [decimal, String.toList_append] at h
    rcases List.mem_append.mp h with h | h
    · exact .inl (List.mem_singleton.mp h)
    · exact .inr (isDigit_of_mem_natural h)

theorem toList_decimal {n : Int} (h : 0 ≤ n) : (decimal n).toList = Nat.toDigits 10 n.toNat := by
  obtain ⟨m, rfl⟩ := Int.eq_ofNat_of_zero_le h
  exact String.toList_ofList

theorem length_toDigits_pos (n : Nat) : 0 < (Nat.toDigits 10 n).length :=
  List.length_pos_of_ne_nil Nat.toDigits_ne_nil

/-- Zero is written with a digit although it has none as a number. -/
theorem length_toDigits {n : Nat} (h : n ≠ 0) :
    (Nat.toDigits 10 n).length = (Nat.digits 10 n).length := by
  have hpos : 0 < (Nat.digits 10 n).length :=
    List.length_pos_of_ne_nil (Nat.digits_ne_nil_iff_ne_zero.mpr h)
  have hpos' := length_toDigits_pos n
  refine eq_of_forall_ge_iff fun k => ?_
  by_cases hk : 0 < k
  · rw [Nat.length_toDigits_le_iff (by decide) hk, Nat.digits_length_le_iff (by decide)]
  · omega

/-- A larger number is written with at least as many digits. -/
theorem length_toDigits_mono {m n : Nat} (h : m ≤ n) :
    (Nat.toDigits 10 m).length ≤ (Nat.toDigits 10 n).length := by
  have hn : n < 10 ^ (Nat.toDigits 10 n).length :=
    (Nat.length_toDigits_le_iff (by decide) (length_toDigits_pos n)).mp (Nat.le_refl _)
  exact (Nat.length_toDigits_le_iff (by decide) (length_toDigits_pos n)).mpr (h.trans_lt hn)

end Diagnostics.Text
