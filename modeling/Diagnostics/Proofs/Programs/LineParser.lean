import Diagnostics.Proofs.Programs.LineProblems
import Diagnostics.Proofs.Source.Suppliers
import Diagnostics.Proofs.Text.Numerals
import Diagnostics.Proofs.Text.Words

/-! # What the parser of lines reads

Where the problems of lines are registered, the parser reads any text to its end: each line gives
its number or a report of what is wrong with it, or is passed over, and the report shows the line
with one highlight within it. Nothing on the way can fail, as the words of a line stand in it and
the highlights are cut from them.
-/
namespace Diagnostics.Programs

namespace LineProblem

/-- What the highlight of a problem says besides marking its place. -/
def note? : LineProblem → Option String
  | .wrongCount => some "expected 2 words"
  | .missingHelp | .notANumber => none

def message? : LineProblem → Option String
  | .wrongCount => none
  | .missingHelp => some "A line should always start with 'help'"
  | .notANumber => some "After the 'help' a number should be written"

def site? : LineProblem → Option Site
  | .wrongCount => some wrongCountSite
  | .missingHelp | .notANumber => none

end LineProblem

namespace InputLine

/-- The excerpt of a line with one highlight on it. -/
def shown (l : InputLine) (start stop : Nat) (note : Option String) : Excerpt :=
  ⟨[⟨l.number, String.ofList l.text⟩], [⟨l.number, start, stop, note, .error⟩], some l.file⟩

/-- The report of a problem with some columns of a line. -/
def problem (l : InputLine) (p : LineProblem) (start stop : Nat) (help : Option String) : Report :=
  .root ⟨p.code, p.title, .error, p.message?, help, none, p.site?, [l.shown start stop p.note?]⟩

/-- What is reported for the first of two words. -/
inductive ReadsKeyword (l : InputLine) : List Char → List Report → Prop where
  | help : ReadsKeyword l "help".toList []
  | other {keyword : List Char} (hkeyword : keyword ≠ "help".toList)
      (hwithin : keyword.length ≤ l.text.length) :
      ReadsKeyword l keyword [l.problem .missingHelp 0 keyword.length none]

/-- What the second of two words gives, if it is searched for from where the first one would end in
a line without blanks in front: its number, or a report. -/
inductive ReadsValue (l : InputLine) (keyword : List Char) :
    List Char → List Int → List Report → Prop where
  | number {value : List Char} {n : Int} (hvalue : Text.readNumeral value = .ok n) :
      ReadsValue l keyword value [n] []
  | notANumber {value : List Char} {fault : Text.NumeralFault} {start : Nat}
      (hvalue : Text.readNumeral value = .error fault)
      (hstart : Text.firstIndexFrom? value keyword.length l.text = some start)
      (hwithin : start + value.length ≤ l.text.length) :
      ReadsValue l keyword value []
        [l.problem .notANumber start (start + value.length) (some (fault.message value))]

/-- What a line gives. -/
inductive Reads (l : InputLine) : List Int → List Report → Prop where
  | comment (hcomment : l.text.head? = some '#') : Reads l [] []
  | wrongCount (hcomment : l.text.head? ≠ some '#') (hcount : (Text.words l.text).length ≠ 2) :
      Reads l [] [l.problem .wrongCount 0 l.text.length none]
  | words {keyword value : List Char} {numbers : List Int} {missing unread : List Report}
      (hcomment : l.text.head? ≠ some '#') (hwords : Text.words l.text = [keyword, value])
      (hkeyword : l.ReadsKeyword keyword missing)
      (hvalue : l.ReadsValue keyword value numbers unread) : Reads l numbers (missing ++ unread)

/-- What is reported of a line. -/
inductive Reported (l : InputLine) : Report → Prop where
  | wrongCount : Reported l (l.problem .wrongCount 0 l.text.length none)
  | missingHelp {keyword value : List Char} (hwords : Text.words l.text = [keyword, value])
      (hwithin : keyword.length ≤ l.text.length) :
      Reported l (l.problem .missingHelp 0 keyword.length none)
  | notANumber {keyword value : List Char} {start : Nat} {help : Option String}
      (hwords : Text.words l.text = [keyword, value])
      (hstart : Text.firstIndexFrom? value keyword.length l.text = some start)
      (hwithin : start + value.length ≤ l.text.length) :
      Reported l (l.problem .notANumber start (start + value.length) help)

section Unique
variable {l : InputLine} {keyword value : List Char}

theorem ReadsKeyword.unique {reported reported' : List Report}
    (h : l.ReadsKeyword keyword reported) (h' : l.ReadsKeyword keyword reported') :
    reported = reported' := by
  cases h with
  | help =>
    cases h' with
    | help => rfl
    | other hother _ => exact absurd rfl hother
  | other hother _ =>
    cases h' with
    | help => exact absurd rfl hother
    | other _ _ => rfl

theorem ReadsValue.unique {numbers numbers' : List Int} {unread unread' : List Report}
    (h : l.ReadsValue keyword value numbers unread)
    (h' : l.ReadsValue keyword value numbers' unread') : numbers = numbers' ∧ unread = unread' := by
  cases h with
  | number hvalue =>
    cases h' with
    | number hvalue' =>
      cases hvalue.symm.trans hvalue'
      exact ⟨rfl, rfl⟩
    | notANumber hvalue' _ _ => cases hvalue.symm.trans hvalue'
  | notANumber hvalue hstart _ =>
    cases h' with
    | number hvalue' => cases hvalue.symm.trans hvalue'
    | notANumber hvalue' hstart' _ =>
      cases hvalue.symm.trans hvalue'
      cases hstart.symm.trans hstart'
      exact ⟨rfl, rfl⟩

theorem Reads.unique {values values' : List Int} {problems problems' : List Report}
    (h : l.Reads values problems) (h' : l.Reads values' problems') :
    values = values' ∧ problems = problems' := by
  cases h with
  | comment hcomment =>
    cases h' with
    | comment _ => exact ⟨rfl, rfl⟩
    | wrongCount hother _ | words hother _ _ _ => exact absurd hcomment hother
  | wrongCount hother hcount =>
    cases h' with
    | comment hcomment => exact absurd hcomment hother
    | wrongCount _ _ => exact ⟨rfl, rfl⟩
    | words _ hwords _ _ => exact absurd (congrArg List.length hwords) hcount
  | words hother hwords hkeyword hvalue =>
    cases h' with
    | comment hcomment => exact absurd hcomment hother
    | wrongCount _ hcount => exact absurd (congrArg List.length hwords) hcount
    | words _ hwords' hkeyword' hvalue' =>
      cases hwords.symm.trans hwords'
      obtain ⟨rfl, rfl⟩ := hvalue.unique hvalue'
      rw [hkeyword.unique hkeyword']
      exact ⟨rfl, rfl⟩

end Unique

theorem Reads.reported {l : InputLine} {values : List Int} {problems : List Report}
    (h : l.Reads values problems) : ∀ r ∈ problems, l.Reported r := by
  cases h with
  | comment _ => exact List.forall_mem_nil _
  | wrongCount _ _ => exact List.forall_mem_singleton.mpr .wrongCount
  | words _ hwords hkeyword hvalue =>
    refine List.forall_mem_append.mpr ⟨?_, ?_⟩
    · cases hkeyword with
      | help => exact List.forall_mem_nil _
      | other _ hwithin => exact List.forall_mem_singleton.mpr (.missingHelp hwords hwithin)
    · cases hvalue with
      | number _ => exact List.forall_mem_nil _
      | notANumber _ hstart hwithin =>
        exact List.forall_mem_singleton.mpr (.notANumber hwords hstart hwithin)

end InputLine

/-- What the lines of a file give, in their order, from a number on. -/
inductive LinesRead (file : String) : Nat → List (List Char) → List Int → List Report → Prop where
  | nil (number : Nat) : LinesRead file number [] [] []
  | cons {number : Nat} {text : List Char} {texts : List (List Char)} {values moreValues : List Int}
      {problems moreProblems : List Report}
      (hline : InputLine.Reads ⟨file, number, text⟩ values problems)
      (hmore : LinesRead file (number + 1) texts moreValues moreProblems) :
      LinesRead file number (text :: texts) (values ++ moreValues) (problems ++ moreProblems)

theorem LinesRead.unique {file : String} {number : Nat} {texts : List (List Char)}
    {values values' : List Int} {problems problems' : List Report}
    (h : LinesRead file number texts values problems)
    (h' : LinesRead file number texts values' problems') :
    values = values' ∧ problems = problems' := by
  induction h generalizing values' problems' with
  | nil _ =>
    cases h'
    exact ⟨rfl, rfl⟩
  | cons hline hmore ih =>
    cases h' with
    | cons hline' hmore' =>
      obtain ⟨rfl, rfl⟩ := hline.unique hline'
      obtain ⟨rfl, rfl⟩ := ih hmore'
      exact ⟨rfl, rfl⟩

namespace InputLine
variable {type : VariantType} {l : InputLine} {keyword value : List Char}

theorem excerpt_eq_ok {start stop : Nat} (hnumber : 1 ≤ l.number) (hle : start ≤ stop)
    (hwithin : stop ≤ l.text.length) (note : Option String) :
    l.excerpt start stop note = .ok (l.shown start stop note) := by
  have hline : SourceLine.make l.number (String.ofList l.text) =
      .ok ⟨l.number, String.ofList l.text⟩ := by
    have hpos : ¬ (l.number : Int) < 1 := by omega
    exact if_neg hpos
  have hshown : Excerpt.ofLine (String.ofList l.text) l.number =
      .ok ⟨[⟨l.number, String.ofList l.text⟩], [], none⟩ := by
    unfold Excerpt.ofLine
    rw [hline]
    rfl
  have hfits : Highlight.Fits ⟨l.number, start, stop, note, .error⟩
      [⟨l.number, String.ofList l.text⟩] := by
    refine ⟨⟨_, List.mem_singleton.mpr rfl, rfl⟩, ?_, ?_, ?_⟩
    · exact Int.natCast_nonneg start
    · exact Int.ofNat_le.mpr hle
    · intro m hm _
      obtain rfl := List.mem_singleton.mp hm
      simpa using hwithin
  unfold excerpt
  rw [hshown]
  exact Excerpt.make_eq_ok_iff.mpr ⟨rfl, List.forall_mem_singleton.mpr hfits⟩

def gathered (p : LineProblem) (help : Option String) : Builder where
  identifier := .text p.code
  title := .text p.title
  message := .ofOption p.message?
  help := .ofOption help
  site := (p.site?.map Datum.site).getD .null

theorem build_gathered (p : LineProblem) (help : Option String) (e : Excerpt) :
    ((gathered p help).addExcerpt (.excerpt e)).build none .null =
      Session.ofExcept (.ok (.root
        ⟨p.code, p.title, .error, p.message?, help, none, p.site?, [e]⟩)) := by
  have hsite : Validation.siteOrNull ((p.site?.map Datum.site).getD .null) = .valid p.site? := by
    cases p <;> rfl
  have hholds : ((gathered p help).addExcerpt (.excerpt e)).Holds
      ⟨p.code, p.title, .error, p.message?, help, none, p.site?, [e]⟩ :=
    ⟨rfl, rfl, rfl, Validation.textOrNull_ofOption _, Validation.textOrNull_ofOption _, rfl, hsite,
      rfl⟩
  unfold Builder.build
  rw [Builder.overridden_none, pure_bind, Builder.titledOver, Builder.finish_eq_checkReport,
    hholds.checkReport p.code_ne p.title_ne]

theorem report_succeeds {p : LineProblem} {start stop : Nat} {help : Option String}
    {fill : Builder → Builder} (hnumber : 1 ≤ l.number) (hle : start ≤ stop)
    (hwithin : stop ≤ l.text.length)
    (hfill : fill { identifier := .text p.code, title := .text p.title } = gathered p help) :
    Succeeds type (l.report type p start stop p.note? fill) (· = l.problem p start stop help) := by
  refine (forVariant_succeeds type p).bind ?_
  rintro b rfl
  have hexcerpt := excerpt_eq_ok hnumber hle hwithin p.note?
  refine (succeeds_ofExcept hexcerpt rfl).bind ?_
  rintro e rfl
  rw [hfill, build_gathered]
  exact succeeds_ofExcept rfl rfl

theorem wrongCountReport_succeeds (hnumber : 1 ≤ l.number) :
    Succeeds type (l.wrongCountReport type)
      (· = l.problem .wrongCount 0 l.text.length none) :=
  report_succeeds hnumber (Nat.zero_le _) (Nat.le_refl _) rfl

theorem missingHelpReport_succeeds (hnumber : 1 ≤ l.number)
    (hwithin : keyword.length ≤ l.text.length) :
    Succeeds type (l.missingHelpReport type keyword)
      (· = l.problem .missingHelp 0 keyword.length none) :=
  report_succeeds hnumber (Nat.zero_le _) hwithin rfl

theorem notANumberReport_succeeds {start : Nat} (hnumber : 1 ≤ l.number)
    (hstart : Text.firstIndexFrom? value keyword.length l.text = some start)
    (hwithin : start + value.length ≤ l.text.length) (fault : Text.NumeralFault) :
    Succeeds type (l.notANumberReport type keyword value fault)
      (· = l.problem .notANumber start (start + value.length) (some (fault.message value))) := by
  have hcolumn : l.columnFrom value keyword.length = .ok start := by
    unfold columnFrom
    rw [hstart]
  refine (succeeds_ofExcept hcolumn rfl).bind ?_
  rintro column rfl
  exact report_succeeds hnumber (Nat.le_add_right start _) hwithin rfl

/-- The value is read in the same way whether the keyword was reported or not. -/
theorem readValue_succeeds {missing : List Report} (hnumber : 1 ≤ l.number)
    (hcomment : l.text.head? ≠ some '#') (hwords : Text.words l.text = [keyword, value])
    (hmissing : l.ReadsKeyword keyword missing) :
    Succeeds type
      (match Text.readNumeral value with
        | .ok n => pure ([n], missing)
        | .error fault => do return ([], missing ++ [← l.notANumberReport type keyword value fault]))
      fun read => l.Reads read.1 read.2 := by
  cases hvalue : Text.readNumeral value with
  | ok n =>
    have hreads := Reads.words hcomment hwords hmissing (.number hvalue)
    rw [List.append_nil] at hreads
    exact succeeds_pure hreads
  | error fault =>
    obtain ⟨start, hstart, hwithin⟩ := Text.exists_firstIndexFrom? hwords
    refine (notANumberReport_succeeds hnumber hstart hwithin fault).bind ?_
    rintro r rfl
    exact succeeds_pure (.words hcomment hwords hmissing (.notANumber hvalue hstart hwithin))

theorem readWords_succeeds (hnumber : 1 ≤ l.number) (hcomment : l.text.head? ≠ some '#')
    (hwords : Text.words l.text = [keyword, value]) :
    Succeeds type (l.readWords type keyword value) fun read => l.Reads read.1 read.2 := by
  have hlength : keyword.length ≤ l.text.length := Text.length_le_of_words hwords
  unfold readWords
  dsimp only
  split
  · next hhelp =>
    rw [pure_bind]
    exact readValue_succeeds hnumber hcomment hwords (hhelp ▸ .help)
  · next hother =>
    refine (missingHelpReport_succeeds hnumber hlength).bind ?_
    rintro r rfl
    rw [pure_bind]
    exact readValue_succeeds hnumber hcomment hwords (.other hother hlength)

/-- No line stops the parser. -/
theorem read_succeeds (hnumber : 1 ≤ l.number) :
    Succeeds type (l.read type) fun read => l.Reads read.1 read.2 := by
  unfold read
  split
  · next hcomment => exact succeeds_pure (.comment hcomment)
  · next hcomment =>
    split
    · next keyword value hwords => exact readWords_succeeds hnumber hcomment hwords
    · next hwords =>
      have hcount : (Text.words l.text).length ≠ 2 := by
        intro htwo
        obtain ⟨keyword, value, hpair⟩ := List.length_eq_two.mp htwo
        exact hwords keyword value hpair
      refine (wrongCountReport_succeeds hnumber).bind ?_
      rintro r rfl
      exact succeeds_pure (.wrongCount hcomment hcount)

end InputLine

theorem readLines_succeeds (type : VariantType) (file : String) (texts : List (List Char))
    {number : Nat} (hnumber : 1 ≤ number) :
    Succeeds type (readLines type file number texts)
      fun read => LinesRead file number texts read.1 read.2 := by
  induction texts generalizing number with
  | nil => exact succeeds_pure (.nil number)
  | cons text texts ih =>
    refine (InputLine.read_succeeds hnumber).bind ?_
    rintro ⟨values, problems⟩ hline
    refine (ih (Nat.le_succ_of_le hnumber)).bind ?_
    rintro ⟨moreValues, moreProblems⟩ hmore
    exact succeeds_pure (.cons hline hmore)

theorem parseLines_succeeds (type : VariantType) (path text : String) :
    Succeeds type (parseLines type path text) fun read =>
      LinesRead (Path.ofText path).name 1 (Text.splitLines text.toList) read.1 read.2.reports := by
  unfold parseLines
  rw [Text.splitLines_unifyNewlines]
  refine (readLines_succeeds type _ _ (Nat.le_refl 1)).bind ?_
  rintro ⟨values, problems⟩ hread
  refine (succeeds_log _ _ _).bind ?_
  intro _ _
  exact succeeds_pure hread

/-- How often a problem was reported. -/
def occurrences (p : LineProblem) (problems : List Report) : Nat :=
  problems.countP fun r => r.identifier = p.code

/-- A report shows one line, with one highlight within it. -/
def InputLine.ShownBy (l : InputLine) (r : Report) : Prop :=
  ∃ start stop note, start ≤ stop ∧ stop ≤ l.text.length ∧
    r.finding.excerpts = [l.shown start stop note]

section Outcome
variable {l : InputLine} {values : List Int} {problems : List Report}

@[simp] theorem occurrences_nil (p : LineProblem) : occurrences p [] = 0 := rfl

@[simp] theorem occurrences_append (p : LineProblem) (problems more : List Report) :
    occurrences p (problems ++ more) = occurrences p problems + occurrences p more :=
  List.countP_append

@[simp] theorem occurrences_cons (p q : LineProblem) (start stop : Nat) (help : Option String)
    (problems : List Report) :
    occurrences p (l.problem q start stop help :: problems) =
      occurrences p problems + if q = p then 1 else 0 := by
  have hcode : q.code = p.code ↔ q = p := by cases p <;> cases q <;> decide
  have hidentifier : (l.problem q start stop help).identifier = q.code := rfl
  simp only [occurrences, List.countP_cons, hidentifier, decide_eq_true_eq, hcode]

theorem InputLine.Reported.shownBy {r : Report} (h : l.Reported r) : l.ShownBy r := by
  cases h with
  | wrongCount => exact ⟨0, l.text.length, _, Nat.zero_le _, Nat.le_refl _, rfl⟩
  | @missingHelp keyword _ _ hwithin => exact ⟨0, keyword.length, _, Nat.zero_le _, hwithin, rfl⟩
  | @notANumber _ value start _ _ _ hwithin =>
    exact ⟨start, start + value.length, _, Nat.le_add_right _ _, hwithin, rfl⟩

theorem InputLine.Reads.count (h : l.Reads values problems) :
    values.length + occurrences .notANumber problems + occurrences .wrongCount problems =
      if l.text.head? ≠ some '#' then 1 else 0 := by
  cases h with
  | comment hcomment => simp [hcomment]
  | wrongCount hcomment hcount => simp [hcomment]
  | words hcomment hwords hkeyword hvalue =>
    cases hkeyword <;> cases hvalue <;> simp [hcomment]

theorem InputLine.Reads.natAbs_lt (h : l.Reads values problems) :
    ∀ n ∈ values, n.natAbs < 10 ^ Text.maxNumeralDigits := by
  cases h with
  | comment _ | wrongCount _ _ => exact List.forall_mem_nil _
  | words _ _ _ hvalue =>
    cases hvalue with
    | number hvalue => exact List.forall_mem_singleton.mpr (Text.natAbs_lt_of_readNumeral hvalue)
    | notANumber _ _ _ => exact List.forall_mem_nil _

namespace LinesRead
variable {file : String} {number : Nat} {texts : List (List Char)}

theorem count (h : LinesRead file number texts values problems) :
    values.length + occurrences .notANumber problems + occurrences .wrongCount problems =
      texts.countP fun text => text.head? ≠ some '#' := by
  induction h with
  | nil => rfl
  | @cons number text texts values moreValues problems moreProblems hline hmore ih =>
    have hcount : values.length + occurrences .notANumber problems +
        occurrences .wrongCount problems = if text.head? ≠ some '#' then 1 else 0 := hline.count
    rw [List.countP_cons, ← ih, List.length_append, occurrences_append, occurrences_append]
    simp only [decide_eq_true_eq]
    omega

theorem exists_line {holds : InputLine → Report → Prop}
    (h : LinesRead file number texts values problems)
    (hline : ∀ l values problems, InputLine.Reads l values problems → ∀ r ∈ problems, holds l r) :
    ∀ r ∈ problems, ∃ i text, texts[i]? = some text ∧ holds ⟨file, number + i, text⟩ r := by
  induction h with
  | nil => exact List.forall_mem_nil _
  | @cons number text texts _ _ _ _ hfirst hmore ih =>
    refine List.forall_mem_append.mpr ⟨?_, ?_⟩
    · intro r hr
      exact ⟨0, text, rfl, hline _ _ _ hfirst r hr⟩
    · intro r hr
      obtain ⟨i, later, hi, hholds⟩ := ih r hr
      refine ⟨i + 1, later, hi, ?_⟩
      rwa [show number + (i + 1) = number + 1 + i by omega]

theorem shownBy (h : LinesRead file number texts values problems) :
    ∀ r ∈ problems, ∃ i text, texts[i]? = some text ∧ InputLine.ShownBy ⟨file, number + i, text⟩ r :=
  h.exists_line fun _ _ _ hline r hr => (hline.reported r hr).shownBy

theorem natAbs_lt (h : LinesRead file number texts values problems) :
    ∀ n ∈ values, n.natAbs < 10 ^ Text.maxNumeralDigits := by
  induction h with
  | nil => exact List.forall_mem_nil _
  | cons hline hmore ih => exact List.forall_mem_append.mpr ⟨hline.natAbs_lt, ih⟩

end LinesRead

end Outcome

theorem parseLines_of_outcome {path text : String} {read : List Int × Collection}
    (h : Session.outcome (defineLineProblems >>= fun type => parseLines type path text) .initial =
      .ok read) :
    ∃ type s s', Registered type s ∧ parseLines type path text s = .ok read s' := by
  obtain ⟨type, s, hdefined, hregistered⟩ := defineLineProblems_registered (s := .initial) (by decide)
  rw [Session.outcome_bind_of_ok hdefined] at h
  obtain ⟨s', hparse⟩ := Session.eq_ok_of_outcome h
  exact ⟨type, s, s', hregistered, hparse⟩

end Diagnostics.Programs
