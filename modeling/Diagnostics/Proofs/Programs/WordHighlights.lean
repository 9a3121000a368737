import Diagnostics.Proofs.Programs.LineParser
import Diagnostics.Proofs.Text.WordColumns

/-! # The words that the reports of lines mark

The parser marks a first word from the beginning of its line on, and searches for a second one from
as far on as the first one is long. Both are right in a line that begins with its first word. Behind
blanks the first word is missed, and the second one exactly if it also stands in the end of the
first one, as far as this end is no longer than the blanks.
-/
namespace Diagnostics.Programs

namespace InputLine

/-- A report shows a line with the columns from `start` up to `stop` marked, and no others. -/
def Marks (l : InputLine) (r : Report) (start stop : Nat) : Prop :=
  ∃ note, r.finding.excerpts = [l.shown start stop note]

/-- A report marks exactly the columns of the word of a number, the first one being number zero. -/
def MarksWord (l : InputLine) (r : Report) (n : Nat) : Prop :=
  ∃ column word, Text.WordAt l.text n column word ∧ l.Marks r column (column + word.length)

def indent (l : InputLine) : Nat := (l.text.takeWhile Text.isBlank).length

structure MarksWords (l : InputLine) (r : Report) : Prop where
  missingHelp : r.identifier = "P002" → ∃ keyword value, Text.words l.text = [keyword, value] ∧
    l.Marks r 0 keyword.length ∧ (l.MarksWord r 0 ↔ l.indent = 0)
  notANumber : r.identifier = "P001" → ∃ keyword value start,
    Text.words l.text = [keyword, value] ∧ l.Marks r start (start + value.length) ∧
    IsLeast {i | keyword.length ≤ i ∧ value <+: l.text.drop i} start ∧
    (l.MarksWord r 1 ↔ ¬ value <:+: keyword.rtake l.indent)
  of_indent_eq_zero : l.indent = 0 →
    (r.identifier = "P002" → l.MarksWord r 0) ∧ (r.identifier = "P001" → l.MarksWord r 1)

section Columns
variable {l : InputLine} {r : Report}

theorem marks_problem (l : InputLine) (p : LineProblem) (start stop : Nat) (help : Option String) :
    l.Marks (l.problem p start stop help) start stop :=
  ⟨p.note?, rfl⟩

theorem Marks.start_eq {start stop start' stop' : Nat} (h : l.Marks r start stop)
    (h' : l.Marks r start' stop') : start = start' := by
  obtain ⟨note, hr⟩ := h
  obtain ⟨note', hr'⟩ := h'
  have hsame := hr.symm.trans hr'
  simp only [shown, List.cons.injEq, Excerpt.mk.injEq, Highlight.mk.injEq] at hsame
  omega

theorem marksWord_iff {n start column : Nat} {word : List Char}
    (hword : Text.WordAt l.text n column word) (hmarks : l.Marks r start (start + word.length)) :
    l.MarksWord r n ↔ start = column := by
  constructor
  · rintro ⟨column', word', hword', hmarks'⟩
    obtain ⟨rfl, rfl⟩ := hword.unique hword'
    exact hmarks.start_eq hmarks'
  · rintro rfl
    exact ⟨start, word, hword, hmarks⟩

variable {keyword value : List Char} (hwords : Text.words l.text = [keyword, value])
include hwords

theorem marksWord_missingHelp :
    l.MarksWord (l.problem .missingHelp 0 keyword.length none) 0 ↔ l.indent = 0 := by
  obtain ⟨front, rest, hfirst, -⟩ := Text.exists_startsWith hwords
  have hmarks := l.marks_problem .missingHelp 0 keyword.length none
  rw [← Nat.zero_add keyword.length] at hmarks ⊢
  rw [marksWord_iff (.first hfirst) hmarks, indent, ← hfirst.gap_eq_takeWhile, eq_comm]

theorem marksWord_notANumber {start : Nat}
    (hstart : IsLeast {i | keyword.length ≤ i ∧ value <+: l.text.drop i} start)
    (help : Option String) :
    l.MarksWord (l.problem .notANumber start (start + value.length) help) 1 ↔
      ¬ value <:+: keyword.rtake l.indent := by
  obtain ⟨front, rest, hfirst, hrest⟩ := Text.exists_startsWith hwords
  obtain ⟨between, back, hsecond, -⟩ := Text.exists_startsWith hrest
  have hmarks := l.marks_problem .notANumber start (start + value.length) help
  rw [marksWord_iff (.later hfirst (.first hsecond)) hmarks,
    Text.eq_column_iff hfirst hsecond hstart, indent, ← hfirst.gap_eq_takeWhile]

theorem not_infix_rtake_zero : ¬ value <:+: keyword.rtake 0 := by
  obtain ⟨front, rest, -, hrest⟩ := Text.exists_startsWith hwords
  obtain ⟨between, back, hsecond, -⟩ := Text.exists_startsWith hrest
  rw [List.rtake_zero, List.infix_nil]
  exact hsecond.word_ne_nil

end Columns

theorem Reported.marksWords {l : InputLine} {r : Report} (h : l.Reported r) : l.MarksWords r := by
  cases h with
  | wrongCount =>
    have hmissing : "P003" ≠ "P002" := by decide
    have hunread : "P003" ≠ "P001" := by decide
    exact ⟨fun h => absurd h hmissing, fun h => absurd h hunread,
      fun _ => ⟨fun h => absurd h hmissing, fun h => absurd h hunread⟩⟩
  | @missingHelp keyword value hwords _ =>
    have hunread : "P002" ≠ "P001" := by decide
    have hmarks := marksWord_missingHelp hwords
    refine ⟨fun _ => ⟨keyword, value, hwords, marks_problem .., hmarks⟩, fun h => absurd h hunread,
      fun hindent => ⟨fun _ => hmarks.mpr hindent, fun h => absurd h hunread⟩⟩
  | @notANumber keyword value start help hwords hfirst _ =>
    have hmissing : "P001" ≠ "P002" := by decide
    have hstart := Text.isLeast_firstIndexFrom? hfirst
    have hmarks := marksWord_notANumber hwords hstart help
    refine ⟨fun h => absurd h hmissing,
      fun _ => ⟨keyword, value, start, hwords, marks_problem .., hstart, hmarks⟩, ?_⟩
    intro hindent
    refine ⟨fun h => absurd h hmissing, fun _ => hmarks.mpr ?_⟩
    rw [hindent]
    exact not_infix_rtake_zero hwords

end InputLine

/-- The reports of a file and the words that they mark. What is reported as a missing help marks as
many columns as the first of two words has, from the beginning of the line on, and so the word
itself exactly if no blanks are in front of it. What is reported as no number marks the second of
two words where it stands first from as far on as the first word is long, and so the word itself
exactly if it does not stand within the end of the first one that is as long as the blanks in front
of that. In a line that begins with its first word, all reports mark the words that they are
about. -/
theorem highlights_mark_words {type : VariantType} {s : Session} (hs : Registered type s)
    (path text : String) :
    ∃ values problems s', parseLines type path text s = .ok (values, ⟨problems⟩) s' ∧
      ∀ r ∈ problems, ∃ i line, (Text.splitLines text.toList)[i]? = some line ∧
        InputLine.MarksWords ⟨(Path.ofText path).name, 1 + i, line⟩ r := by
  obtain ⟨⟨values, problems⟩, s', hparse, hread, -⟩ := parseLines_succeeds type path text s hs
  exact ⟨values, problems.reports, s', hparse,
    hread.exists_line fun _ _ _ hline r hr => (hline.reported r hr).marksWords⟩

/-- A second word that stands in the first one too, in a line that begins with that. -/
theorem highlights_mark_words_repeated :
    ∃ type s r s', Registered type s ∧
      parseLines type "input.txt" "help p" s = .ok ([], ⟨[r]⟩) s' ∧ r.identifier = "P001" ∧
      InputLine.MarksWord ⟨"input.txt", 1, "help p".toList⟩ r 1 := by
  let l : InputLine := ⟨"input.txt", 1, "help p".toList⟩
  let r := l.problem .notANumber 5 6 (some "invalid literal for int() with base 10: 'p'")
  have hrun : Session.outcome (defineLineProblems >>= fun type =>
      parseLines type "input.txt" "help p") .initial = .ok ([], ⟨[r]⟩) := by
    decide +kernel
  obtain ⟨type, s, s', hregistered, hparse⟩ := parseLines_of_outcome hrun
  refine ⟨type, s, r, s', hregistered, hparse, rfl, ?_⟩
  obtain ⟨values, problems, t, hok, hmarks⟩ :=
    highlights_mark_words hregistered "input.txt" "help p"
  cases hparse.symm.trans hok
  obtain ⟨i, line, hline, hwords⟩ := hmarks r (List.mem_singleton.mpr rfl)
  have hlines : Text.splitLines "help p".toList = ["help p".toList] := by decide
  rw [hlines, List.getElem?_singleton] at hline
  obtain ⟨rfl, rfl⟩ : i = 0 ∧ "help p".toList = line := by simpa using hline
  exact (hwords.of_indent_eq_zero (by decide)).2 rfl

/-- Behind two blanks, four columns from the beginning of the line on do not show a first word of
four letters, and a second word is shown where it stands in the first one. -/
theorem indented_words_missed :
    ∃ type s missing unread s', Registered type s ∧
      parseLines type "input.txt" "  halp 3\n  help p\n" s =
        .ok ([3], ⟨[missing, unread]⟩) s' ∧
      (missing.identifier = "P002" ∧
        ¬ InputLine.MarksWord ⟨"input.txt", 1, "  halp 3".toList⟩ missing 0) ∧
      (unread.identifier = "P001" ∧
        ¬ InputLine.MarksWord ⟨"input.txt", 2, "  help p".toList⟩ unread 1) := by
  let first : InputLine := ⟨"input.txt", 1, "  halp 3".toList⟩
  let second : InputLine := ⟨"input.txt", 2, "  help p".toList⟩
  let missing := first.problem .missingHelp 0 "halp".length none
  let unread := second.problem .notANumber 5 (5 + "p".length)
    (some "invalid literal for int() with base 10: 'p'")
  have hrun : Session.outcome (defineLineProblems >>= fun type =>
      parseLines type "input.txt" "  halp 3\n  help p\n") .initial =
        .ok ([3], ⟨[missing, unread]⟩) := by
    decide +kernel
  obtain ⟨type, s, s', hregistered, hparse⟩ := parseLines_of_outcome hrun
  refine ⟨type, s, missing, unread, s', hregistered, hparse, ⟨rfl, ?_⟩, rfl, ?_⟩
  · have hwords : Text.words first.text = ["halp".toList, "3".toList] := by decide
    have hindent : first.indent ≠ 0 := by decide
    exact fun h => hindent ((InputLine.marksWord_missingHelp hwords).mp h)
  · have hwords : Text.words second.text = ["help".toList, "p".toList] := by decide
    have hstart : Text.firstIndexFrom? "p".toList "help".length second.text = some 5 := by decide
    have hwithin : "p".toList <:+: "help".toList.rtake second.indent := by decide
    have hmarks := InputLine.marksWord_notANumber hwords (Text.isLeast_firstIndexFrom? hstart)
    exact fun h => (hmarks _).mp h hwithin

end Diagnostics.Programs
