import Diagnostics.Source.Supplier
import Mathlib.Data.List.Induction

/-! # Sources in files and in memory supply the same lines

A file is read with its newlines made uniform and only then cut into lines, while a text in memory
is cut as it is. Neither a carriage return nor the newline after one is lost or counted twice by
this, so both give the same lines, and hence the same answer to every range that is asked for.
-/
namespace Diagnostics

namespace Text

/-- Only a carriage return looks at the character behind it. -/
theorem splitLines_cons {c : Char} (h : c ≠ '\r') (cs : List Char) :
    splitLines (c :: cs) =
      if isLineBreak c then [] :: splitLines cs else consLine c (splitLines cs) := by
  rw [splitLines]
  intro rest hc
  exact absurd hc h

theorem splitLines_newline_cons (cs : List Char) :
    splitLines ('\n' :: cs) = [] :: splitLines cs := by
  have hbreak : isLineBreak '\n' = true := by decide
  rw [splitLines_cons (by decide), if_pos hbreak]

theorem splitLines_return_cons {cs : List Char} (h : ∀ rest, cs ≠ '\n' :: rest) :
    splitLines ('\r' :: cs) = [] :: splitLines cs := by
  have hbreak : isLineBreak '\r' = true := by decide
  rw [splitLines, if_pos hbreak]
  intro rest _ hcs
  exact h rest hcs

/-- Making the newlines of a text uniform leaves its lines alone. -/
theorem splitLines_unifyNewlines (cs : List Char) :
    splitLines (unifyNewlines cs) = splitLines cs := by
  -- The cases are those of `unifyNewlines`: both characters of a break, or one character.
  induction cs using unifyNewlines.induct with
  | case1 => rfl
  | case2 cs ih => rw [unifyNewlines, splitLines_newline_cons, ih, splitLines]
  | case3 c cs hpair ih =>
    rw [unifyNewlines]
    · by_cases hc : c = '\r'
      · subst hc
        have hcs : ∀ rest, cs ≠ '\n' :: rest := fun rest hrest => hpair rest rfl hrest
        rw [if_pos rfl, splitLines_newline_cons, ih, splitLines_return_cons hcs]
      · rw [if_neg hc, splitLines_cons hc, ih, splitLines_cons hc]
    · exact hpair

theorem lines_ofList_unifyNewlines (text : String) :
    lines (String.ofList (unifyNewlines text.toList)) = lines text := by
  unfold lines
  rw [String.toList_ofList, splitLines_unifyNewlines]

end Text

theorem Encoding.decode_toUTF8 (text : String) : decode .utf8 text.toUTF8 = some text := by
  have hvalid : text.toUTF8.IsValidUTF8 := text.isValidUTF8
  rw [decode, String.fromUTF8?, dif_pos hvalid]
  rfl

/-- A name leads to a file that is there and holds a text in UTF-8. No file has a zero character in
its name. -/
structure FileSource.Holds (s : FileSource) (name text : String) : Prop where
  encoding : s.encoding = .utf8
  no_zero : name.toList.contains (Char.ofNat 0) = false
  bytes : s.tree.read ((Path.ofText name).seenFrom s.directory) = .ok text.toUTF8

theorem FileSource.Holds.readText {s : FileSource} {name text : String} (h : s.Holds name text)
    (first last : Int) :
    s.readText name first last = .ok (String.ofList (Text.unifyNewlines text.toList)) := by
  unfold FileSource.readText
  rw [h.no_zero, h.bytes, h.encoding]
  simp only [Except.mapError, bind, Except.bind, Encoding.decode_toUTF8]
  rfl

/-- What is supplied from memory is cut from the text that was added last under the name. -/
theorem TextSources.lookup_ofTexts (name : String) (texts : List (String × String)) :
    List.lookup name (ofTexts texts) = (texts.reverse.lookup name).map Text.lines := by
  induction texts using List.reverseRecOn with
  | nil => rfl
  | append_singleton texts added ih =>
    obtain ⟨other, text⟩ := added
    have hadd : ofTexts (texts ++ [(other, text)]) = (ofTexts texts).add other text := by
      simp [ofTexts]
    rw [hadd, add, List.reverse_append, List.reverse_singleton, List.singleton_append]
    by_cases h : name = other
    · subst h
      simp
    · have hbeq : (name == other) = false := by simpa using h
      rw [Keyed.lookup_put_of_ne h, ih, List.lookup_cons, hbeq]

/-- A text in a file and the same text in memory, under one name, give the same lines of every
range, or refuse it with the same fault. -/
theorem supply_file_eq_supply_text {s : FileSource} {name text : String} (hfile : s.Holds name text)
    {texts : List (String × String)} (htext : texts.reverse.lookup name = some text)
    (first last : Int) :
    s.supply name first last = (TextSources.ofTexts texts).supply name first last := by
  have hlines : List.lookup name (TextSources.ofTexts texts) = some (Text.lines text) := by
    rw [TextSources.lookup_ofTexts, htext]
    rfl
  unfold FileSource.supply TextSources.supply
  rw [hfile.readText, hlines]
  simp only [bind, Except.bind, Text.lines_ofList_unifyNewlines]

/-- Carriage returns and newlines in every order, and two breaks that files leave alone. -/
def tangledBreaks : String := "a\r\r\nb\n\rc\u2028d\x0ce\r"

def tangledFile : FileSource :=
  ⟨⟨[(["data", "a.txt"], tangledBreaks.toUTF8)], []⟩, ["data"], .utf8⟩

def heldTexts : TextSources :=
  .ofTexts [("./a.txt", "old"), ("./a.txt", tangledBreaks), ("b", "")]

theorem supply_file_eq_supply_text_tangled :
    tangledFile.Holds "./a.txt" tangledBreaks ∧
    tangledFile.supply "./a.txt" 2 5 = heldTexts.supply "./a.txt" 2 5 ∧
    tangledFile.supply "./a.txt" 2 9 = heldTexts.supply "./a.txt" 2 9 ∧
    heldTexts.supply "./a.txt" 2 5 = .ok ["", "b", "", "c"] ∧
    heldTexts.supply "./a.txt" 2 9 = .error (.unavailable "./a.txt" 2 9 (.tooShort 7)) := by
  have hfile : tangledFile.Holds "./a.txt" tangledBreaks := ⟨rfl, by decide, by rfl⟩
  exact ⟨hfile, supply_file_eq_supply_text hfile rfl 2 5, supply_file_eq_supply_text hfile rfl 2 9,
    by rfl, by rfl⟩

end Diagnostics
