import Diagnostics.Proofs.Programs.LineParser
import Diagnostics.Proofs.Render.Printing

/-! # The parser of lines reads every text

The parser fails on no text, and what a program prints that runs it is settled by what was read: the
numbers if nothing was reported, and otherwise the reports. Only the start of the program can fail
before that, if the settings cannot be had or their log level is none.
-/
namespace Diagnostics.Programs

/-- The settings that a program starts with, unless their log level is refused. -/
def startingSettings (s : Session) : Except Fault Settings := do
  let settings ← Settings.load [] s.environment
  if s.logSetUp || settings.namesLogLevel then .ok settings else .error .unknownLogLevel

theorem setUpLog_eq (settings : Settings) (s : Session) :
    Session.setUpLog settings s = Session.ofExcept
      (if s.logSetUp || settings.namesLogLevel then .ok () else .error .unknownLogLevel)
      { s with logSetUp := true } := rfl

/-- To start changes no more than that the log may be set up. -/
theorem startProgram_eq (s : Session) : ∃ logSetUp,
    Session.startProgram s = Session.ofExcept (startingSettings s) { s with logSetUp } := by
  have hload : Session.loadSettings [] s =
      Session.ofExcept (Settings.load [] s.environment) s := rfl
  unfold Session.startProgram startingSettings
  cases hsettings : Settings.load [] s.environment with
  | error fault =>
    rw [hsettings] at hload
    exact ⟨s.logSetUp, Session.bind_of_error hload⟩
  | ok settings =>
    rw [hsettings] at hload
    have hlog := setUpLog_eq settings s
    refine ⟨true, (Session.bind_of_ok hload).trans ?_⟩
    change _ = Session.ofExcept
      (if s.logSetUp || settings.namesLogLevel then .ok settings else .error .unknownLogLevel) _
    split
    · next hlevel =>
      rw [if_pos hlevel] at hlog
      exact Session.bind_of_ok hlog
    · next hlevel =>
      rw [if_neg hlevel] at hlog
      exact Session.bind_of_error hlog

section Printing
variable {s s' : Session}

def numberLines (values : List Int) : String :=
  String.join (values.map fun n => Text.decimal n ++ "\n")

/-- What is printed for some reports. -/
def problemText (settings : Settings) (stream : Stream) (s : Session) (problems : List Report) :
    Except Fault String :=
  (s.styles.get (styleName settings s.environment stream)).map fun style =>
    Collection.render ⟨problems⟩ style ++ "\n"

theorem outcome_emit_problems (problems : List Report) (stream : Stream) (settings : Settings)
    (s : Session) : Session.outcome (emit (.collection ⟨problems⟩) stream (some settings)) s =
      problemText settings stream s problems :=
  outcome_emit rfl (.collection ⟨problems⟩) stream

theorem mem_numberLines {values : List Int} {c : Char} (h : c ∈ (numberLines values).toList) :
    c = '\n' ∨ c = '-' ∨ c.isDigit = true := by
  rw [numberLines, String.toList_join, List.flatMap_map] at h
  obtain ⟨n, -, hc⟩ := List.mem_flatMap.mp h
  rw [String.toList_append] at hc
  rcases List.mem_append.mp hc with hc | hc
  · exact .inr (Text.eq_minus_or_isDigit_of_mem_decimal hc)
  · exact .inl (List.mem_singleton.mp hc)

theorem mem_render {problems : List Report} (h : problems ≠ []) (style : Style) :
    'e' ∈ (Collection.render ⟨problems⟩ style).toList := by
  have hsummary : 'e' ∈ (Collection.summary ⟨problems⟩ style).toList := by
    have hrow : Collection.summaryRow ⟨problems⟩ =
        .ofSpans (.bare "encountered: " :: (Collection.counts ⟨problems⟩).intersperse (.bare ", ")) := by
      have hempty : ¬ Collection.isEmpty ⟨problems⟩ = true := by simpa [Collection.isEmpty] using h
      exact if_neg hempty
    rw [Collection.summary, hrow]
    simp [Style.row, Row.ofSpans, Style.span, Span.bare]
  have hrendered : problems.map (·.render style) ≠ [] := by simpa using h
  rw [Collection.render, String.intercalate_append_of_ne_nil hrendered (List.cons_ne_nil _ _),
    String.intercalate_singleton]
  simp [hsummary]

theorem problemText_of_kept (h : s.Kept s') (settings : Settings) (stream : Stream)
    (problems : List Report) :
    problemText settings stream s' problems = problemText settings stream s problems := by
  rw [problemText, h.styles, h.environment, problemText]

variable {type : VariantType} {path text : String} {values : List Int} {problems : List Report}

/-- What was reported decides what is printed. -/
theorem outcome_printLines (hs : Registered type s)
    (hread : LinesRead (Path.ofText path).name 1 (Text.splitLines text.toList) values problems)
    (stream : Stream) :
    Session.outcome (printLines type stream path text) s =
      (startingSettings s >>= fun settings =>
        if problems = [] then .ok (numberLines values)
        else problemText settings stream s problems) := by
  obtain ⟨logSetUp, hstart⟩ := startProgram_eq s
  have ht : Registered type { s with logSetUp } := ⟨hs.notText, hs.provided, hs.remembered⟩
  -- The parser runs after the start, where it reads the same as it would have before.
  obtain ⟨⟨_, ⟨_⟩⟩, s', hparse, hread', -, hkept⟩ := parseLines_succeeds type path text _ ht
  obtain ⟨rfl, rfl⟩ := hread.unique hread'
  refine (Session.outcome_bind_of_ofExcept hstart).trans ?_
  congr 1
  funext settings
  refine (Session.outcome_bind_of_ok hparse).trans ?_
  by_cases hnone : problems = []
  · subst hnone
    rfl
  · have hempty : ¬ Collection.isEmpty ⟨problems⟩ = true := by
      simpa [Collection.isEmpty] using hnone
    dsimp only
    rw [if_neg hempty, if_neg hnone, outcome_emit_problems, problemText_of_kept hkept]
    rfl

theorem printed_eq_numberLines_iff {settings : Settings} {stream : Stream} {out : String}
    (h : (if problems = [] then .ok (numberLines values)
      else problemText settings stream s problems) = Except.ok out) :
    out = numberLines values ↔ problems = [] := by
  split at h
  · next hnone => exact iff_of_true (Except.ok.inj h).symm hnone
  · next hsome =>
    refine iff_of_false ?_ hsome
    rintro rfl
    unfold problemText at h
    cases hstyle : s.styles.get (styleName settings s.environment stream) with
    | error fault =>
      rw [hstyle] at h
      cases h
    | ok style =>
      rw [hstyle] at h
      have hprinted : 'e' ∈ (numberLines values).toList := by
        rw [← Except.ok.inj h, String.toList_append]
        exact List.mem_append_left _ (mem_render hsome style)
      rcases mem_numberLines hprinted with hc | hc | hc
      · exact absurd hc (by decide)
      · exact absurd hc (by decide)
      · exact absurd hc (by decide)

end Printing

/-- Where the problems of lines are registered, which takes no more than to define them, the parser
reads every text and fails on none. What it gives are the numbers and the reports of the lines, in
their order, and a word that is no number is always found again in its line. Every line but the
comments has its number or a report instead of it, each report shows its line with one highlight
within it, and no number is too long to be written. A program that prints what it reads first takes
the settings, of which it refuses an unknown log level unless a log was set up before. What it then
prints are the numbers exactly if there is no report. -/
theorem parseLines_reads_every_text :
    (∀ s : Session, VariantType.providedCount ≤ s.typeCount →
      ∃ type s', defineLineProblems s = .ok type s' ∧ Registered type s') ∧
    ∀ (type : VariantType) (s : Session) (path text : String), Registered type s →
      ∃ values problems s', parseLines type path text s = .ok (values, ⟨problems⟩) s' ∧
        Registered type s' ∧
        LinesRead (Path.ofText path).name 1 (Text.splitLines text.toList) values problems ∧
        values.length + occurrences .notANumber problems + occurrences .wrongCount problems =
          (Text.splitLines text.toList).countP (fun line => line.head? ≠ some '#') ∧
        (∀ r ∈ problems, ∃ i line, (Text.splitLines text.toList)[i]? = some line ∧
          InputLine.ShownBy ⟨(Path.ofText path).name, 1 + i, line⟩ r) ∧
        (∀ n ∈ values, n.natAbs < 10 ^ Text.maxNumeralDigits) ∧
        ∀ stream, Session.outcome (printLines type stream path text) s =
            (startingSettings s >>= fun settings =>
              if problems = [] then .ok (numberLines values)
              else problemText settings stream s problems) ∧
          ∀ out, Session.outcome (printLines type stream path text) s = .ok out →
            (out = numberLines values ↔ problems = []) := by
  refine ⟨fun s h => defineLineProblems_registered h, ?_⟩
  intro type s path text hs
  obtain ⟨⟨values, problems⟩, s', hparse, hread, hs', -⟩ :=
    parseLines_succeeds type path text s hs
  refine ⟨values, problems.reports, s', hparse, hs', hread, hread.count, hread.shownBy,
    hread.natAbs_lt, ?_⟩
  intro stream
  have hprints := outcome_printLines hs hread stream
  refine ⟨hprints, ?_⟩
  intro out hout
  obtain ⟨settings, -, hchosen⟩ := bind_eq_ok_iff.mp (hprints.symm.trans hout)
  exact printed_eq_numberLines_iff hchosen

/-- A comment, an ideographic space in front of a numeral with a sign and an underscore, a line
without words, a keyword that is longer than what is in front of its value, and two problems on one
line. -/
def tangledLines : String :=
  "# no number\n\u3000help\u00a0+1_2\n\nnumber 5\r\nhalp four"

/-- An environment that asks for a log level that there is not. -/
def chatty : Environment := ⟨[("custom_error_log_level", "chatty")], none⟩

theorem parseLines_reads_every_text_tangled :
    ∃ type s, defineLineProblems .initial = .ok type s ∧ Registered type s ∧
      (∃ problems s', parseLines type "notes/in.txt" tangledLines s = .ok ([12, 5], ⟨problems⟩) s' ∧
        problems.map Report.identifier = ["P003", "P002", "P002", "P001"] ∧
        LinesRead "in.txt" 1 (Text.splitLines tangledLines.toList) [12, 5] problems) ∧
      Session.outcome (printLines type .file "notes/in.txt" tangledLines)
        { s with environment := chatty, logSetUp := false } = .error .unknownLogLevel := by
  obtain ⟨hdefine, hparse⟩ := parseLines_reads_every_text
  obtain ⟨type, s, hdefined, hregistered⟩ := hdefine .initial (Nat.le_refl _)
  obtain ⟨values, problems, s', hok, -, hread, -⟩ :=
    hparse type s "notes/in.txt" tangledLines hregistered
  have hrun : (Session.outcome (defineLineProblems >>= fun type =>
      parseLines type "notes/in.txt" tangledLines) .initial).map
        (fun read => (read.1, read.2.reports.map Report.identifier)) =
      .ok ([12, 5], ["P003", "P002", "P002", "P001"]) := by
    decide +kernel
  rw [Session.outcome_of_ok ((Session.bind_of_ok hdefined).trans hok)] at hrun
  obtain ⟨rfl, hcodes⟩ := Prod.mk.inj (Except.ok.inj hrun)
  refine ⟨type, s, hdefined, hregistered, ⟨problems, s', hok, hcodes, hread⟩, ?_⟩
  have hchatty : Registered type { s with environment := chatty, logSetUp := false } :=
    ⟨hregistered.notText, hregistered.provided, hregistered.remembered⟩
  obtain ⟨_, _, _, -, -, -, -, -, -, hprints⟩ :=
    hparse type _ "notes/in.txt" tangledLines hchatty
  have hsettings : Settings.load [] chatty =
      .ok ⟨"chatty", .auto, "ansi", DocLinker.defaultTemplate⟩ := by
    decide +kernel
  have hrefused : startingSettings { s with environment := chatty, logSetUp := false } =
      .error .unknownLogLevel := by
    unfold startingSettings
    rw [hsettings]
    rfl
  rw [(hprints .file).1, hrefused]
  rfl

end Diagnostics.Programs
