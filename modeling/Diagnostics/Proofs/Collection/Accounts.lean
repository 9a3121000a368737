import Diagnostics.Proofs.Render.CauseChain
import Diagnostics.Proofs.Report.IteratedConversion
import Diagnostics.Proofs.Text.Numerals

/-! # The accounts of a collection

A collection holds what was put into it in order, each report below what it was converted to since.
A conversion gives every report a wrapper of the same level or fails, so the counts stay as they are.
Each report has one of the three levels, so the counts add up to the size, and the summary of a
collection that holds something names a level.
-/
namespace Diagnostics

open Session (identify outcome outcome_of_ok eq_ok_of_outcome)

namespace Report

@[simp] theorem level_wrapped (r : Report) (names : List (String × String)) :
    (r.wrapped names).level = r.level := by
  induction names generalizing r with
  | nil => rfl
  | cons name names ih =>
    rw [wrapped_cons, ih]
    rfl

theorem wrapped_append (r : Report) (names more : List (String × String)) :
    r.wrapped (names ++ more) = (r.wrapped names).wrapped more :=
  List.foldl_append

end Report

namespace Collection

/-- What is done to a collection: one report is put into it, or some are, or it is replaced by what
it is converted to in some session, unless that fails. -/
inductive Handling where
  | append (r : Report)
  | extend (rs : List Report)
  | convert (v : Variant) (title : Datum) (s : Session)

namespace Handling

/-- The reports that are put into the collection. -/
def added : Handling → List Report
  | append r => [r]
  | extend rs => rs
  | convert .. => []

/-- The code and the title that the reports are put below, if there are any. -/
def names : Handling → List (String × String)
  | convert v (.text title) s =>
    match outcome (identify v) s with
    | .ok resolved => if resolved.code = "" ∨ title = "" then [] else [(resolved.code, title)]
    | .error _ => []
  | _ => []

end Handling

def handle (c : Collection) : Handling → Collection
  | .append r => c.append r
  | .extend rs => c.extend rs
  | .convert v title s =>
    match outcome (c.convert v title) s with
    | .ok converted => converted
    | .error _ => c

def handleAll (c : Collection) (hs : List Handling) : Collection :=
  hs.foldl handle c

@[simp] theorem handleAll_nil (c : Collection) : c.handleAll [] = c := rfl

@[simp] theorem handleAll_cons (c : Collection) (h : Handling) (hs : List Handling) :
    c.handleAll (h :: hs) = (c.handle h).handleAll hs := rfl

/-- The reports that are put into a collection, each below the names that come after it. -/
def addedBelow : List Handling → List Report
  | [] => []
  | h :: hs => h.added.map (·.wrapped (hs.flatMap Handling.names)) ++ addedBelow hs

section Conversion
variable {v : Variant} {title : Datum} {s : Session} {c converted : Collection}

theorem Handling.names_of_identify {resolved : Resolved} {s' : Session} {text : String}
    (h : identify v s = .ok resolved s') (hcode : resolved.code ≠ "") (htext : text ≠ "") :
    names (.convert v (.text text) s) = [(resolved.code, text)] := by
  have hidentify := outcome_of_ok h
  simp [names, hidentify, hcode, htext]

theorem Handling.identify_of_names (h : names (.convert v title s) ≠ []) :
    ∃ resolved s' text, identify v s = .ok resolved s' ∧ resolved.code ≠ "" ∧ text ≠ "" ∧
      title = .text text := by
  cases title with
  | text text =>
    cases hidentify : outcome (identify v) s with
    | error fault => simp [names, hidentify] at h
    | ok resolved =>
      obtain ⟨s', hok⟩ := eq_ok_of_outcome hidentify
      simp only [names, hidentify, ne_eq, ite_eq_left_iff, reduceCtorEq, imp_false,
        not_not, not_or] at h
      exact ⟨resolved, s', text, hok, h.1, h.2, rfl⟩
  | _ => exact absurd rfl h

/-- A conversion that succeeds puts all reports below the same names. -/
theorem reports_of_convert (h : outcome (c.convert v title) s = .ok converted) :
    converted.reports = c.reports.map (·.wrapped (Handling.names (.convert v title s))) := by
  obtain ⟨s', h⟩ := eq_ok_of_outcome h
  obtain ⟨rs, t, hall, hrs⟩ := action_bind_eq_ok_iff.mp h
  cases hrs
  cases hreports : c.reports with
  | nil =>
    rw [hreports] at hall
    cases hall
    rfl
  | cons r rest =>
    rw [hreports] at hall
    -- The first report was converted, so the identifier and the title are good for all of them.
    obtain ⟨wrapper, u, hfirst, -⟩ := action_bind_eq_ok_iff.mp hall
    obtain ⟨resolved, u', hidentify, hwrap⟩ := Report.wrap_of_convert hfirst
    obtain ⟨text, hcode, htext, rfl, -⟩ := Report.wrap_eq_ok_iff.mp hwrap
    obtain ⟨t', hok, -⟩ := convertAll_of_identify hidentify hcode htext (r :: rest)
    cases hok.symm.trans hall
    rw [Handling.names_of_identify hidentify hcode htext]
    rfl

theorem names_of_convert_error {fault : Fault} (h : outcome (c.convert v title) s = .error fault) :
    Handling.names (.convert v title s) = [] := by
  by_contra hne
  obtain ⟨resolved, s', text, hidentify, hcode, htext, rfl⟩ := Handling.identify_of_names hne
  obtain ⟨t, hok, -⟩ := convertAll_of_identify hidentify hcode htext c.reports
  have hconvert : outcome (c.convert v (.text text)) s = .ok _ :=
    outcome_of_ok (Session.bind_of_ok hok)
  cases hconvert.symm.trans h

end Conversion

theorem reports_handle (c : Collection) (h : Handling) :
    (c.handle h).reports = c.reports.map (·.wrapped h.names) ++ h.added := by
  cases h with
  | append r => simp [handle, append, Handling.names, Handling.added]
  | extend rs => simp [handle, extend, Handling.names, Handling.added]
  | convert v title s =>
    rw [Handling.added, List.append_nil]
    cases houtcome : outcome (c.convert v title) s with
    | ok converted =>
      simp only [handle, houtcome]
      exact reports_of_convert houtcome
    | error fault =>
      simp only [handle, houtcome, names_of_convert_error houtcome, Report.wrapped_nil, List.map_id']

/-- The reports are those from before and the added ones, in order, each below the names that came
after it. -/
theorem reports_handleAll (c : Collection) (hs : List Handling) :
    (c.handleAll hs).reports =
      c.reports.map (·.wrapped (hs.flatMap Handling.names)) ++ addedBelow hs := by
  induction hs generalizing c with
  | nil => simp [addedBelow]
  | cons h hs ih =>
    rw [handleAll_cons, ih, reports_handle, List.map_append, List.map_map, addedBelow, List.append_assoc,
      List.flatMap_cons]
    congr 1
    exact List.map_congr_left fun r _ => (r.wrapped_append _ _).symm

/-- Where nothing is converted, the collection is what was put into it. -/
theorem reports_of_no_names {hs : List Handling} (h : ∀ h ∈ hs, h.names = []) (c : Collection) :
    (c.handleAll hs).reports = c.reports ++ hs.flatMap Handling.added := by
  induction hs generalizing c with
  | nil => simp
  | cons first hs ih =>
    obtain ⟨hfirst, hrest⟩ := List.forall_mem_cons.mp h
    rw [handleAll_cons, ih hrest, reports_handle, hfirst]
    simp

section Counts
variable {c converted : Collection} {names : List (String × String)}

theorem count_of_wrapped (h : converted.reports = c.reports.map (·.wrapped names)) (l : Level) :
    converted.count l = c.count l := by
  simp [count, h, List.countP_map, Function.comp_def]

theorem size_of_wrapped (h : converted.reports = c.reports.map (·.wrapped names)) :
    converted.size = c.size := by
  simp [size, h]

theorem counts_add_up (c : Collection) :
    c.count .error + c.count .warning + c.count .info = c.size := by
  obtain ⟨rs⟩ := c
  induction rs with
  | nil => rfl
  | cons r rs ih =>
    simp only [count, size, List.countP_cons, List.length_cons] at ih ⊢
    cases hlevel : r.level <;> simp <;> omega

theorem hasErrors_iff (c : Collection) :
    c.hasErrors = true ↔ ∃ r ∈ c.reports, r.level = .error := by
  simp [hasErrors, count, List.countP_pos_iff]

end Counts

/-- The levels that the reports have, in the order in which a summary names them. -/
def levels (c : Collection) : List Level :=
  [.error, .warning, .info].filter fun l => c.count l ≠ 0

/-- A level and how often it occurs, as a summary shows them. -/
def part (c : Collection) (style : Style) (l : Level) : String :=
  style.color l.labelRole (l.counted (c.count l))

/-- The number at the front of a text. -/
def shownNumber (text : String) : Nat :=
  Nat.ofDigitChars 10 (text.toList.takeWhile Char.isDigit) 0

theorem shownNumber_counted (l : Level) (n : Nat) : shownNumber (l.counted n) = n := by
  have htext : (l.counted n).toList = Nat.toDigits 10 n ++
      ' ' :: (l.noun ++ if (n : Int) = 1 then "" else "s").toList := by
    simp [Level.counted, Text.toList_decimal, String.toList_append]
  have hdigits : ∀ d ∈ Nat.toDigits 10 n, d.isDigit = true :=
    fun d hd => Nat.isDigit_of_mem_toDigits (by decide) (by decide) hd
  rw [shownNumber, htext, List.takeWhile_append_of_pos hdigits, List.takeWhile_cons_of_neg (by decide),
    List.append_nil, Nat.ofDigitChars_ten_toDigits]

theorem sum_levels (c : Collection) : (c.levels.map c.count).sum = c.size := by
  have hsum : ∀ ls : List Level,
      ((ls.filter fun l => c.count l ≠ 0).map c.count).sum = (ls.map c.count).sum := by
    intro ls
    induction ls with
    | nil => rfl
    | cons l ls ih => by_cases hl : c.count l = 0 <;> simp_all
  rw [levels, hsum, ← c.counts_add_up]
  simp [Nat.add_assoc]

theorem levels_ne_nil {c : Collection} (h : c.reports ≠ []) : c.levels ≠ [] := by
  intro hnil
  have hsize := c.sum_levels
  rw [hnil] at hsize
  exact h (List.length_eq_zero_iff.mp hsize.symm)

theorem join_intersperse (sep : String) (texts : List String) :
    String.join (texts.intersperse sep) = sep.intercalate texts := by
  induction texts with
  | nil => rfl
  | cons text texts ih =>
    cases texts with
    | nil => simp
    | cons next rest =>
      rw [List.intersperse_cons_cons, String.intercalate_cons_cons, String.join_cons,
        String.join_cons, ih, String.append_assoc]

theorem map_intersperse {α β : Type} (f : α → β) (sep : α) (as : List α) :
    (as.intersperse sep).map f = (as.map f).intersperse (f sep) := by
  induction as with
  | nil => rfl
  | cons a as ih =>
    cases as with
    | nil => rfl
    | cons next rest => simpa using ih

theorem summaryRow_eq_iff (c : Collection) :
    c.summaryRow = .ofSpans [.inRole .success "no messages!"] ↔ c.reports = [] := by
  cases hreports : c.reports with
  | nil => simp [summaryRow, isEmpty, hreports]
  | cons r rs => simp [summaryRow, isEmpty, hreports, Row.ofSpans, Span.inRole, Span.bare]

theorem summary_of_nil {c : Collection} (h : c.reports = []) (style : Style) :
    c.summary style = style.color .success "no messages!" := by
  simp [summary, summaryRow, isEmpty, h, row_ofSpans, Style.spans, Style.span, Span.inRole]

theorem summary_of_ne_nil {c : Collection} (h : c.reports ≠ []) (style : Style) :
    c.summary style = "encountered: " ++ ", ".intercalate (c.levels.map (c.part style)) := by
  have hspans : c.counts.map style.span = c.levels.map (c.part style) := by
    rw [counts, List.map_map]
    rfl
  rw [summary, summaryRow, isEmpty, List.isEmpty_eq_false_iff.mpr h, if_neg (by decide), row_ofSpans,
    Style.spans, List.map_cons, map_intersperse, hspans, String.join_cons]
  exact congrArg _ (join_intersperse _ _)

theorem intercalate_concat (sep last : String) (texts : List String) :
    sep.intercalate (texts ++ [last]) = String.join (texts.map (· ++ sep)) ++ last := by
  induction texts with
  | nil => simp
  | cons text texts ih =>
    rw [List.cons_append, String.intercalate_cons_of_ne_nil (by simp), ih]
    simp [String.append_assoc]

theorem render_eq (c : Collection) (style : Style) :
    c.render style =
      String.join (c.reports.map fun r => r.render style ++ "\n\n") ++ c.summary style := by
  rw [render, intercalate_concat, List.map_map]
  rfl

end Collection

/-- A style in which the summary of no reports does not read like one of some reports. -/
def Style.TellsEmpty (style : Style) : Prop :=
  ∀ text, style.color .success "no messages!" ≠ "encountered: " ++ text

theorem Style.tellsEmpty_of_head? {style : Style}
    (h : (style.color .success "no messages!").toList.head? ≠ some 'e') : style.TellsEmpty := by
  intro text htext
  rw [htext, String.toList_append] at h
  exact h rfl

theorem Style.tellsEmpty_plain : plain.TellsEmpty :=
  tellsEmpty_of_head? (by decide)

theorem Style.tellsEmpty_ansi : ansi.TellsEmpty :=
  tellsEmpty_of_head? (by decide)

open Collection (Handling addedBelow shownNumber)

/-- What was put into a collection is in it in order, each report below the names of the conversions
that succeeded since. The three counts add up to the size and stay as they are in a conversion. The
summary says that there are no messages exactly if there are none, and names the levels that occur
otherwise, at least one, with numbers that add up to the size. The renderings of the reports come
first, and a blank line comes after each. -/
theorem collection_accounts :
    (∀ (c : Collection) (hs : List Handling), (c.handleAll hs).reports =
      c.reports.map (·.wrapped (hs.flatMap Handling.names)) ++ addedBelow hs) ∧
    (∀ (c : Collection) (hs : List Handling), (∀ h ∈ hs, h.names = []) →
      (c.handleAll hs).reports = c.reports ++ hs.flatMap Handling.added) ∧
    (∀ (c converted : Collection) v title s, outcome (c.convert v title) s = .ok converted →
      converted.size = c.size ∧ ∀ l, converted.count l = c.count l) ∧
    Style.plain.TellsEmpty ∧ Style.ansi.TellsEmpty ∧
    ∀ c : Collection,
      c.count .error + c.count .warning + c.count .info = c.size ∧
      (c.hasErrors = true ↔ ∃ r ∈ c.reports, r.level = .error) ∧
      (c.summaryRow = .ofSpans [.inRole .success "no messages!"] ↔ c.reports = []) ∧
      (∀ style : Style, style.TellsEmpty →
        (c.summary style = style.color .success "no messages!" ↔ c.reports = [])) ∧
      (c.reports = [] → ∀ style, c.summary style = style.color .success "no messages!") ∧
      (c.reports ≠ [] →
        (∀ style, c.summary style = "encountered: " ++ ", ".intercalate
          (c.levels.map fun l => style.color l.labelRole (l.counted (c.count l)))) ∧
        c.levels = [.error, .warning, .info].filter (fun l => c.count l ≠ 0) ∧ c.levels ≠ [] ∧
        (c.levels.map fun l => shownNumber (l.counted (c.count l))).sum = c.size) ∧
      ∀ style, c.render style =
        String.join (c.reports.map fun r => r.render style ++ "\n\n") ++ c.summary style := by
  refine ⟨Collection.reports_handleAll, ?_, ?_, Style.tellsEmpty_plain, Style.tellsEmpty_ansi, ?_⟩
  · intro c hs hnames
    exact Collection.reports_of_no_names hnames c
  · intro c converted v title s h
    have hreports := Collection.reports_of_convert h
    exact ⟨Collection.size_of_wrapped hreports, Collection.count_of_wrapped hreports⟩
  · intro c
    refine ⟨c.counts_add_up, c.hasErrors_iff, c.summaryRow_eq_iff, ?_, Collection.summary_of_nil, ?_,
      c.render_eq⟩
    · intro style htells
      refine ⟨fun hsummary => ?_, fun hnil => Collection.summary_of_nil hnil style⟩
      by_contra hne
      exact htells _ (hsummary.symm.trans (Collection.summary_of_ne_nil hne style))
    · intro hne
      refine ⟨Collection.summary_of_ne_nil hne, rfl, Collection.levels_ne_nil hne, ?_⟩
      simp only [Collection.shownNumber_counted]
      exact c.sum_levels

/-- A report of another level than the others. -/
def cautioned : Report := .root (.bare "W" "w" .warning)

theorem collection_accounts_two_levels :
    Collection.handleAll ⟨[marked]⟩ [.append cautioned, .extend [marked]] =
      ⟨[marked, cautioned, marked]⟩ ∧
    (∃ converted : Collection, outcome (Collection.convert lowPriority (.text "a")
        ⟨[marked, cautioned, marked]⟩) countedPriorities = .ok converted ∧
      converted.size = 3 ∧ converted.count .warning = 1) ∧
    (Collection.summary ⟨[marked]⟩ .ansi = Style.ansi.color .success "no messages!" ↔ [marked] = []) ∧
    Collection.summary ⟨[]⟩ .plain = "no messages!" ∧
    Collection.summary ⟨[marked, cautioned, marked]⟩ .plain = "encountered: " ++ ", ".intercalate
      ["2 errors", "1 warning"] := by
  obtain ⟨-, hadded, hconverted, -, hansi, hall⟩ := collection_accounts
  refine ⟨congrArg Collection.mk (hadded ⟨[marked]⟩ [.append cautioned, .extend [marked]] ?_), ?_, ?_,
    ?_, ?_⟩
  · simp [Handling.names]
  · obtain ⟨hsize, hcount⟩ := hconverted ⟨[marked, cautioned, marked]⟩ _ lowPriority (.text "a")
      countedPriorities rfl
    exact ⟨_, rfl, hsize, hcount .warning⟩
  · obtain ⟨-, -, -, hsummary, -⟩ := hall ⟨[marked]⟩
    exact hsummary .ansi hansi
  · obtain ⟨-, -, -, -, hempty, -⟩ := hall ⟨[]⟩
    exact hempty rfl .plain
  · obtain ⟨-, -, -, -, -, hheld, -⟩ := hall ⟨[marked, cautioned, marked]⟩
    exact (hheld (List.cons_ne_nil _ _)).1 .plain

end Diagnostics
