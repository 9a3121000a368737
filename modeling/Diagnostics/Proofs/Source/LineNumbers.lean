import Diagnostics.Proofs.Source.Suppliers

/-! # Supplied lines have the numbers that they have in their source

Numbers count from one and ranges hold both of their ends, while the lines are cut from a list that
counts from zero. What is supplied depends on the text alone that was added last under the name, and
the number under which an excerpt shows a line is the number of that line in this text. A text that
was put together from lines without breaks gives these lines back.
-/
namespace Diagnostics

namespace Text

/-- The line of a text with a number, the first one having number one. -/
def lineAt? (text : String) (number : Int) : Option String :=
  if 1 ≤ number then (lines text)[(number - 1).toNat]? else none

/-- A newline ends a line that has no breaks in it. -/
theorem splitLines_append_newline {cs : List Char} (h : ∀ c ∈ cs, isLineBreak c = false)
    (rest : List Char) : splitLines (cs ++ '\n' :: rest) = cs :: splitLines rest := by
  induction cs with
  | nil => exact splitLines_newline_cons rest
  | cons c cs ih =>
    obtain ⟨hc, hcs⟩ := List.forall_mem_cons.mp h
    have hreturn : c ≠ '\r' := by
      rintro rfl
      exact absurd hc (by decide)
    rw [List.cons_append, splitLines_cons hreturn, hc, ih hcs]
    rfl

theorem lines_join_newlines {ts : List String}
    (h : ∀ t ∈ ts, ∀ c ∈ t.toList, isLineBreak c = false) :
    lines (String.join (ts.map (· ++ "\n"))) = ts := by
  induction ts with
  | nil => rfl
  | cons t ts ih =>
    obtain ⟨ht, hts⟩ := List.forall_mem_cons.mp h
    have htext : (String.join ((t :: ts).map (· ++ "\n"))).toList =
        t.toList ++ '\n' :: (String.join (ts.map (· ++ "\n"))).toList := by
      simp [String.toList_join]
    have hrest := ih hts
    unfold lines at hrest ⊢
    rw [htext, splitLines_append_newline ht, List.map_cons, hrest, String.ofList_toList]

end Text

section Slices
variable {all ls : List String} {source : String} {first last : Int}

/-- A range of lines that is not empty and stays within them. -/
@[mk_iff]
structure Covers (all : List String) (first last : Int) : Prop where
  pos : 1 ≤ first
  ordered : first ≤ last
  within : last ≤ all.length

def slice (all : List String) (first last : Int) : List String :=
  (all.drop (first - 1).toNat).take (last - first + 1).toNat

theorem sliceLines_eq_ok_iff :
    sliceLines all source first last = .ok ls ↔ Covers all first last ∧ ls = slice all first last := by
  unfold sliceLines
  split
  · next hrange =>
    refine iff_of_false (by rintro ⟨⟩) ?_
    rintro ⟨⟨hpos, hordered, -⟩, -⟩
    omega
  · next hrange =>
    split
    · next hlong =>
      refine iff_of_false (by rintro ⟨⟩) ?_
      rintro ⟨⟨-, -, hwithin⟩, -⟩
      omega
    · next hlong =>
      have hcovers : Covers all first last := ⟨by omega, by omega, by omega⟩
      rw [Except.ok.injEq, eq_comm]
      exact (and_iff_right hcovers).symm

theorem Covers.length_slice (h : Covers all first last) :
    ((slice all first last).length : Int) = last - first + 1 := by
  obtain ⟨hpos, hordered, hwithin⟩ := h
  rw [slice, List.length_take, List.length_drop]
  omega

theorem Covers.getElem?_slice (h : Covers all first last) {k : Nat}
    (hk : k < (slice all first last).length) :
    (slice all first last)[k]? = all[(first + k - 1).toNat]? := by
  have hlength := h.length_slice
  have hindex : (first - 1).toNat + k = (first + k - 1).toNat := by
    have := h.pos
    omega
  rw [slice, List.getElem?_take_of_lt (by omega), List.getElem?_drop, hindex]

/-- A range may be cut behind every line but the last one. -/
theorem slice_append {a b c : Int} (ha : 1 ≤ a) (hab : a ≤ b) (hbc : b ≤ c) :
    slice all a b ++ slice all (b + 1) c = slice all a c := by
  have hstart : (b + 1 - 1).toNat = (a - 1).toNat + (b - a + 1).toNat := by omega
  have hlength : (c - a + 1).toNat = (b - a + 1).toNat + (c - (b + 1) + 1).toNat := by omega
  rw [slice, slice, slice, hstart, hlength, List.take_add, List.drop_drop]

theorem Covers.lineAt? {text : String} (h : Covers (Text.lines text) first last) {k : Nat}
    (hk : k < (slice (Text.lines text) first last).length) :
    Text.lineAt? text (first + k) = some (slice (Text.lines text) first last)[k] := by
  have hpos : 1 ≤ first + k := by
    have := h.pos
    omega
  rw [Text.lineAt?, if_pos hpos, ← h.getElem?_slice hk, List.getElem?_eq_getElem hk]

theorem slice_one_length (all : List String) : slice all 1 all.length = all := by
  simp [slice]

end Slices

namespace Excerpt

/-- An excerpt shows the lines of a text in a range, under the numbers that they have there. -/
structure Shows (e : Excerpt) (name text : String) (first last : Int) : Prop where
  file : e.file = some name
  highlights : e.highlights = []
  length : (e.lines.length : Int) = last - first + 1
  line : ∀ k (hk : k < e.lines.length), e.lines[k].number = first + k ∧
    Text.lineAt? text (first + k) = some e.lines[k].text

theorem numbered_eq_ok {first : Int} (h : 1 ≤ first) (texts : List String) :
    numbered first texts = .ok (texts.mapIdx fun k text => ⟨first + k, text⟩) := by
  induction texts generalizing first with
  | nil => rfl
  | cons text texts ih =>
    have hline : SourceLine.make first text = .ok ⟨first, text⟩ := if_neg (by omega)
    have hnext : ∀ k : Nat, first + 1 + (k : Int) = first + (k + 1 : Nat) := by omega
    rw [numbered, hline, ih (by omega), List.mapIdx_cons]
    simp only [bind, Except.bind, pure, Except.pure, hnext, Int.natCast_zero, Int.add_zero]

theorem ofSource_ok {name : String} {first : Int} (h : 1 ≤ first) (texts : List String) :
    ofSource name first (.ok texts) =
      .ok ⟨texts.mapIdx fun k text => ⟨first + k, text⟩, [], some name⟩ := by
  unfold ofSource ofLines
  simp only [bind, Except.bind, numbered_eq_ok h]
  rfl

end Excerpt

namespace TextSources

/-- What is asked of sources in memory. -/
inductive Call where
  | add (name text : String)
  | supply (name : String) (first last : Int)

def Call.perform : Call → EStateM Fault TextSources (List String)
  | .add name text => fun sources => .ok [] (sources.add name text)
  | .supply name first last => fun sources =>
    match sources.supply name first last with
    | .ok lines => .ok lines sources
    | .error fault => .error fault sources

def Call.leave (c : Call) (sources : TextSources) : TextSources :=
  match c.perform sources with
  | .ok _ sources | .error _ sources => sources

def after (calls : List Call) : TextSources :=
  calls.foldl (fun sources c => c.leave sources) []

/-- The text that was added last under a name. -/
def AddedLast (calls : List Call) (name text : String) : Prop :=
  ∃ before later, calls = before ++ .add name text :: later ∧ ∀ other, .add name other ∉ later

section Calls
variable {calls : List Call} {c : Call} {name text : String}

@[simp] theorem Call.leave_add (name text : String) (sources : TextSources) :
    (Call.add name text).leave sources = sources.add name text := rfl

@[simp] theorem Call.leave_supply (name : String) (first last : Int) (sources : TextSources) :
    (Call.supply name first last).leave sources = sources := by
  unfold leave perform
  dsimp only
  cases sources.supply name first last <;> rfl

theorem after_append_singleton (calls : List Call) (c : Call) :
    after (calls ++ [c]) = c.leave (after calls) := by
  simp [after]

theorem Call.leave_of_error {sources sources' : TextSources} {fault : Fault}
    (h : c.perform sources = .error fault sources') : sources' = sources := by
  cases c with
  | add name text => cases h
  | supply name first last =>
    unfold perform at h
    dsimp only at h
    split at h <;> cases h
    rfl

/-- Only texts that are added under a name change what the name stands for. -/
theorem lookup_leave (h : ∀ text, c ≠ .add name text) (sources : TextSources) :
    (c.leave sources).lookup name = sources.lookup name := by
  cases c with
  | add other text =>
    have hother : name ≠ other := by
      rintro rfl
      exact h text rfl
    rw [Call.leave_add, add, Keyed.lookup_put_of_ne hother]
  | supply other first last => rw [Call.leave_supply]

theorem addedLast_append_add : AddedLast (calls ++ [.add name text]) name text :=
  ⟨calls, [], rfl, fun _ => List.not_mem_nil⟩

theorem AddedLast.append (h : AddedLast calls name text) (hc : ∀ other, c ≠ .add name other) :
    AddedLast (calls ++ [c]) name text := by
  obtain ⟨before, later, rfl, hlater⟩ := h
  refine ⟨before, later ++ [c], by simp, ?_⟩
  intro other hmem
  rcases List.mem_append.mp hmem with hmem | hmem
  · exact hlater other hmem
  · exact hc other (List.mem_singleton.mp hmem).symm

theorem AddedLast.lookup (h : AddedLast calls name text) :
    (after calls).lookup name = some (Text.lines text) := by
  obtain ⟨before, later, rfl, hlater⟩ := h
  induction later using List.reverseRecOn with
  | nil => rw [after_append_singleton, Call.leave_add, add, Keyed.lookup_put_self]
  | append_singleton later c ih =>
    have hc : ∀ other, c ≠ .add name other := by
      rintro other rfl
      exact hlater other (by simp)
    rw [← List.cons_append, ← List.append_assoc, after_append_singleton, lookup_leave hc]
    exact ih fun other hmem => hlater other (List.mem_append_left _ hmem)

/-- What stands under a name was added there. -/
theorem exists_addedLast {all : List String} (h : (after calls).lookup name = some all) :
    ∃ text, AddedLast calls name text := by
  induction calls using List.reverseRecOn with
  | nil => cases h
  | append_singleton calls c ih =>
    by_cases hc : ∃ text, c = .add name text
    · obtain ⟨text, rfl⟩ := hc
      exact ⟨text, addedLast_append_add⟩
    · push Not at hc
      rw [after_append_singleton, lookup_leave hc] at h
      obtain ⟨text, hadded⟩ := ih h
      exact ⟨text, hadded.append hc⟩

variable {first last : Int} {ls : List String}

theorem AddedLast.supply_eq_ok_iff (h : AddedLast calls name text) :
    (after calls).supply name first last = .ok ls ↔
      Covers (Text.lines text) first last ∧ ls = slice (Text.lines text) first last := by
  unfold supply
  rw [h.lookup]
  exact sliceLines_eq_ok_iff

theorem addedLast_of_supply (h : (after calls).supply name first last = .ok ls) :
    ∃ text, AddedLast calls name text := by
  unfold supply at h
  split at h
  · next all hall => exact exists_addedLast hall
  · cases h

theorem supply_ok_iff : (∃ ls, (after calls).supply name first last = .ok ls) ↔
    ∃ text, AddedLast calls name text ∧ Covers (Text.lines text) first last := by
  constructor
  · rintro ⟨ls, h⟩
    obtain ⟨text, hadded⟩ := addedLast_of_supply h
    exact ⟨text, hadded, (hadded.supply_eq_ok_iff.mp h).1⟩
  · rintro ⟨text, hadded, hcovers⟩
    exact ⟨_, hadded.supply_eq_ok_iff.mpr ⟨hcovers, rfl⟩⟩

/-- Two ranges that meet are supplied exactly if the range of both together is. -/
theorem supply_append_iff {a b c : Int} {zs : List String} :
    (∃ xs ys, (after calls).supply name a b = .ok xs ∧
        (after calls).supply name (b + 1) c = .ok ys ∧ zs = xs ++ ys) ↔
      a ≤ b ∧ b < c ∧ (after calls).supply name a c = .ok zs := by
  constructor
  · rintro ⟨xs, ys, hxs, hys, rfl⟩
    obtain ⟨text, hadded⟩ := addedLast_of_supply hxs
    obtain ⟨⟨hpos, hab, -⟩, rfl⟩ := hadded.supply_eq_ok_iff.mp hxs
    obtain ⟨⟨-, hbc, hwithin⟩, rfl⟩ := hadded.supply_eq_ok_iff.mp hys
    refine ⟨hab, by omega, hadded.supply_eq_ok_iff.mpr ⟨⟨hpos, by omega, hwithin⟩, ?_⟩⟩
    exact slice_append hpos hab (by omega)
  · rintro ⟨hab, hbc, hzs⟩
    obtain ⟨text, hadded⟩ := addedLast_of_supply hzs
    obtain ⟨⟨hpos, -, hwithin⟩, rfl⟩ := hadded.supply_eq_ok_iff.mp hzs
    exact ⟨_, _, hadded.supply_eq_ok_iff.mpr ⟨⟨hpos, hab, by omega⟩, rfl⟩,
      hadded.supply_eq_ok_iff.mpr ⟨⟨by omega, by omega, hwithin⟩, rfl⟩,
      (slice_append hpos hab (by omega)).symm⟩

variable (hadded : AddedLast calls name text)
include hadded

theorem AddedLast.lineAt? (h : (after calls).supply name first last = .ok ls) :
    (ls.length : Int) = last - first + 1 ∧
      ∀ k (hk : k < ls.length), Text.lineAt? text (first + k) = some ls[k] := by
  obtain ⟨hcovers, rfl⟩ := hadded.supply_eq_ok_iff.mp h
  exact ⟨hcovers.length_slice, fun k hk => hcovers.lineAt? hk⟩

theorem AddedLast.ofSource_shows (h : (after calls).supply name first last = .ok ls) :
    ∃ e, Excerpt.ofSource name first (.ok ls) = .ok e ∧ e.Shows name text first last := by
  have hpos := (hadded.supply_eq_ok_iff.mp h).1.pos
  obtain ⟨hlength, hline⟩ := hadded.lineAt? h
  refine ⟨_, Excerpt.ofSource_ok hpos ls, rfl, rfl, ?_, ?_⟩
  · simpa using hlength
  · intro k hk
    have hk' : k < ls.length := by simpa using hk
    simpa using hline k hk'

end Calls

end TextSources

open TextSources (Call after AddedLast)

/-- After any calls, a range of lines is supplied exactly if a text was added under the name and has
these lines, and it is the lines of the text added last that are supplied. Other calls do not change
this, and one that fails changes nothing. An excerpt of what is supplied shows each line under its
number in that text, and fails with the same fault if nothing is. The lines that a text was put
together from come back, and so does a range from two that meet. -/
theorem supplied_lines_numbered (calls : List Call) (name : String) :
    (∀ first last, (∃ ls, (after calls).supply name first last = .ok ls) ↔
      ∃ text, AddedLast calls name text ∧
        1 ≤ first ∧ first ≤ last ∧ last ≤ (Text.lines text).length) ∧
    (∀ text first last ls, AddedLast calls name text →
      (after calls).supply name first last = .ok ls →
        (ls.length : Int) = last - first + 1 ∧
        ∀ k (hk : k < ls.length), Text.lineAt? text (first + k) = some ls[k]) ∧
    (∀ c : Call, (∀ text, c ≠ .add name text) → ∀ first last,
      (after (calls ++ [c])).supply name first last = (after calls).supply name first last) ∧
    (∀ (c : Call) fault sources, c.perform (after calls) = .error fault sources →
      sources = after calls ∧ after (calls ++ [c]) = after calls) ∧
    (∀ first last,
      (∀ fault, (after calls).supply name first last = .error fault →
        Excerpt.ofSource name first ((after calls).supply name first last) = .error fault) ∧
      ∀ text ls, AddedLast calls name text → (after calls).supply name first last = .ok ls →
        ∃ e, Excerpt.ofSource name first ((after calls).supply name first last) = .ok e ∧
          e.Shows name text first last) ∧
    (∀ ts : List String, ts ≠ [] → (∀ t ∈ ts, ∀ c ∈ t.toList, Text.isLineBreak c = false) →
      AddedLast calls name (String.join (ts.map (· ++ "\n"))) →
        (after calls).supply name 1 ts.length = .ok ts) ∧
    ∀ a b c zs, (∃ xs ys, (after calls).supply name a b = .ok xs ∧
        (after calls).supply name (b + 1) c = .ok ys ∧ zs = xs ++ ys) ↔
      a ≤ b ∧ b < c ∧ (after calls).supply name a c = .ok zs := by
  refine ⟨?_, ?_, ?_, ?_, ?_, ?_, fun a b c zs => TextSources.supply_append_iff⟩
  · intro first last
    simp only [TextSources.supply_ok_iff, covers_iff]
  · intro text first last ls hadded h
    exact hadded.lineAt? h
  · intro c hc first last
    unfold TextSources.supply
    rw [TextSources.after_append_singleton, TextSources.lookup_leave hc]
  · intro c fault sources h
    obtain rfl := TextSources.Call.leave_of_error h
    refine ⟨rfl, ?_⟩
    rw [TextSources.after_append_singleton, Call.leave, h]
  · intro first last
    refine ⟨?_, ?_⟩
    · intro fault h
      rw [h]
      rfl
    · intro text ls hadded h
      rw [h]
      exact hadded.ofSource_shows h
  · intro ts hne hfree hadded
    have hlines := Text.lines_join_newlines hfree
    have hpos : 0 < ts.length := List.length_pos_iff.mpr hne
    rw [hadded.supply_eq_ok_iff, hlines]
    exact ⟨⟨by omega, by omega, by omega⟩, (slice_one_length ts).symm⟩

/-- A text that takes the place of another one, between a call that fails and one for another
name. -/
def mixedCalls : List Call :=
  [.add "a" "old", .supply "a" 1 2, .add "a" "x\r\ny\n\nz", .supply "b" 1 1, .add "b" ""]

theorem supplied_lines_numbered_mixed :
    AddedLast mixedCalls "a" "x\r\ny\n\nz" ∧
    (after mixedCalls).supply "a" 2 4 = .ok ["y", "", "z"] ∧
    Text.lineAt? "x\r\ny\n\nz" 3 = some "" ∧
    (∃ e, Excerpt.ofSource "a" 2 ((after mixedCalls).supply "a" 2 4) = .ok e ∧
      e.Shows "a" "x\r\ny\n\nz" 2 4) ∧
    (∃ xs ys, (after mixedCalls).supply "a" 2 2 = .ok xs ∧
      (after mixedCalls).supply "a" (2 + 1) 4 = .ok ys ∧ ["y", "", "z"] = xs ++ ys) ∧
    ∃ ls, (after mixedCalls).supply "a" 1 4 = .ok ls := by
  obtain ⟨hsupplied, hlines, -, -, hexcerpt, -, happend⟩ := supplied_lines_numbered mixedCalls "a"
  have hadded : AddedLast mixedCalls "a" "x\r\ny\n\nz" :=
    ⟨[.add "a" "old", .supply "a" 1 2], [.supply "b" 1 1, .add "b" ""], rfl, by simp⟩
  have hsupply : (after mixedCalls).supply "a" 2 4 = .ok ["y", "", "z"] := by rfl
  have hline := (hlines _ 2 4 _ hadded hsupply).2 1 (by decide)
  have hshows := (hexcerpt 2 4).2 _ _ hadded hsupply
  have hcut := (happend 2 2 4 _).mpr ⟨by decide, by decide, hsupply⟩
  have hwhole := (hsupplied 1 4).mpr ⟨_, hadded, by decide, by decide, by decide⟩
  exact ⟨hadded, hsupply, hline, hshows, hcut, hwhole⟩

end Diagnostics
