import Diagnostics.Text.Blank
import Mathlib.Data.List.DropRight

/-! # What trimming leaves

Only an end that is dropped throughout is taken off a text. So everything up to a character that
is not dropped stays where it is, whatever stands behind it.
-/
namespace Diagnostics.Text
variable {drop : Char → Bool} {front rest cs : List Char} {c : Char} {i : Nat}

theorem prefix_dropEndWhile (drop : Char → Bool) (cs : List Char) : dropEndWhile drop cs <+: cs :=
  List.rdropWhile_prefix drop cs

theorem dropEndWhile_append (drop : Char → Bool) (front rest : List Char) :
    dropEndWhile drop (front ++ rest) =
      if dropEndWhile drop rest = [] then dropEndWhile drop front
      else front ++ dropEndWhile drop rest := by
  simp only [dropEndWhile, List.reverse_append, List.dropWhile_append, List.isEmpty_iff,
    List.reverse_eq_nil_iff]
  split
  · rfl
  · rw [List.reverse_append, List.reverse_reverse]

theorem dropEndWhile_of_getLast? (hlast : cs.getLast? = some c) (hc : drop c = false) :
    dropEndWhile drop cs = cs := by
  refine List.rdropWhile_eq_self_iff.mpr fun hne => ?_
  rw [List.getLast?_eq_some_getLast hne] at hlast
  rw [Option.some.inj hlast, hc]
  exact Bool.false_ne_true

/-- Up to a character that is not dropped, nothing changes. -/
theorem dropEndWhile_append_of_getLast? (hlast : front.getLast? = some c) (hc : drop c = false)
    (rest : List Char) : dropEndWhile drop (front ++ rest) = front ++ dropEndWhile drop rest := by
  rw [dropEndWhile_append, dropEndWhile_of_getLast? hlast hc]
  split
  · next hrest => rw [hrest, List.append_nil]
  · rfl

/-- What stays of a text also stays when more text stands behind it. -/
theorem dropEndWhile_prefix_append (drop : Char → Bool) (front rest : List Char) :
    dropEndWhile drop front <+: dropEndWhile drop (front ++ rest) := by
  rw [dropEndWhile_append]
  split
  · exact List.prefix_refl _
  · exact (prefix_dropEndWhile drop front).trans (List.prefix_append _ _)

theorem getElem?_dropEndWhile (hi : cs[i]? = some c) (hc : drop c = false) :
    (dropEndWhile drop cs)[i]? = some c := by
  have hlt : i < cs.length := (List.getElem?_eq_some_iff.mp hi).1
  have hlast : (cs.take (i + 1)).getLast? = some c := by
    rw [List.take_add_one, hi, Option.toList_some, List.getLast?_concat]
  rw [← List.take_append_drop (i + 1) cs, dropEndWhile_append_of_getLast? hlast hc,
    List.getElem?_append_left (by rw [List.length_take]; omega),
    List.getElem?_take_of_lt (Nat.lt_succ_self i), hi]

end Diagnostics.Text
