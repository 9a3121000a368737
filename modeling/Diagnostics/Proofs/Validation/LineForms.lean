import Diagnostics.Proofs.Validation.Outcome

/-! # Three forms of one line

A line of an excerpt is given as a pair of a number and a text, as a record of the two, or as a line
that was checked before. Pairs are made into lines before anything else is looked at, and the first
bad one ends the check of the lines, while records are checked later and each at its own index. Still
an item is taken for a line by what it holds alone, so the forms may be mixed at will: how the lines
are written decides at most which issues are reported.
-/
namespace Diagnostics

namespace Validation
variable {fields : List (String × Datum)} {number content d : Datum} {l : SourceLine}

/-- The forms in which one line is given: a pair, a record of its parts, perhaps among others, and the
line itself if its parts are valid. -/
inductive LineForm (number content : Datum) : Datum → Prop where
  | pair : LineForm number content (.list [number, content])
  | record {fields : List (String × Datum)} (hnumber : fields.lookup "number" = some number)
    (hcontent : fields.lookup "text" = some content) : LineForm number content (.record fields)
  | line {l : SourceLine} (hnumber : positive number = .valid l.number)
    (hcontent : text content = .valid l.text) : LineForm number content (.line l)

/-- An item is taken for a line if it is that line or holds its number and its text. -/
inductive TakenFor : Datum → SourceLine → Prop where
  | line (l : SourceLine) : TakenFor (.line l) l
  | pair {number content : Datum} {l : SourceLine} (hnumber : positive number = .valid l.number)
    (hcontent : text content = .valid l.text) : TakenFor (.list [number, content]) l
  | record {fields : List (String × Datum)} {number content : Datum} {l : SourceLine}
    (hnumber : fields.lookup "number" = some number)
    (hcontent : fields.lookup "text" = some content)
    (hpositive : positive number = .valid l.number) (htext : text content = .valid l.text) :
    TakenFor (.record fields) l

/-- Items that are the same or give the same line. -/
def Interchangeable (d d' : Datum) : Prop :=
  d = d' ∨ ∃ number content, LineForm number content d ∧ LineForm number content d'

/-- Two checks of an excerpt come to the same: to one excerpt, to one highlight that does not fit, or
to issues in both. -/
inductive SameVerdict : Checked Excerpt → Checked Excerpt → Prop where
  | accepted (e : Excerpt) : SameVerdict (.valid e) (.valid e)
  | misfit (line start stop : Int) (misfit : Misfit) :
    SameVerdict (.refused (.highlight line start stop misfit))
      (.refused (.highlight line start stop misfit))
  | issues (issues issues' : List Issue) : SameVerdict (.invalid issues) (.invalid issues')

theorem lineFields_eq_valid : lineFields fields = .valid l ↔
    required "number" positive fields = .valid l.number ∧
      required "text" text fields = .valid l.text := by
  simp only [lineFields, Checked.map_eq, Checked.seq_eq, Checked.seq_valid_iff, Checked.map_eq_valid]
  constructor
  · rintro ⟨_, content, ⟨number, hnumber, rfl⟩, hcontent, rfl⟩
    exact ⟨hnumber, hcontent⟩
  · rintro ⟨hnumber, hcontent⟩
    exact ⟨_, _, ⟨_, hnumber, rfl⟩, hcontent, rfl⟩

theorem linePair_eq_valid : linePair number content = .valid l ↔
    positive number = .valid l.number ∧ text content = .valid l.text := by
  rw [linePair, lineFields_eq_valid, required_eq_valid, required_eq_valid]
  simp [List.lookup_cons]

theorem lineFields_eq_valid_iff_takenFor :
    lineFields fields = .valid l ↔ TakenFor (.record fields) l := by
  rw [lineFields_eq_valid, required_eq_valid, required_eq_valid]
  constructor
  · rintro ⟨⟨number, hnumber, hpositive⟩, content, hcontent, htext⟩
    exact .record hnumber hcontent hpositive htext
  · intro h
    cases h with
    | record hnumber hcontent hpositive htext =>
      exact ⟨⟨_, hnumber, hpositive⟩, _, hcontent, htext⟩

theorem LineForm.takenFor_iff (h : LineForm number content d) :
    TakenFor d l ↔ positive number = .valid l.number ∧ text content = .valid l.text := by
  cases h with
  | pair =>
    constructor
    · intro hd
      cases hd with
      | pair hnumber hcontent => exact ⟨hnumber, hcontent⟩
    · rintro ⟨hnumber, hcontent⟩
      exact .pair hnumber hcontent
  | record hnumber hcontent =>
    rw [← lineFields_eq_valid_iff_takenFor, lineFields_eq_valid, required_eq_valid,
      required_eq_valid]
    simp [hnumber, hcontent]
  | @line m hnumber hcontent =>
    constructor
    · intro hd
      cases hd
      exact ⟨hnumber, hcontent⟩
    · rintro ⟨hnumber', hcontent'⟩
      obtain ⟨n, t⟩ := l
      obtain rfl : m = ⟨n, t⟩ := by
        rw [hnumber] at hnumber'
        rw [hcontent] at hcontent'
        cases m
        simp_all
      exact .line _

theorem Interchangeable.takenFor_iff {d' : Datum} (h : Interchangeable d d') :
    TakenFor d l ↔ TakenFor d' l := by
  rcases h with rfl | ⟨number, content, hd, hd'⟩
  · rfl
  · rw [hd.takenFor_iff, hd'.takenFor_iff]

theorem sourceLine_eq_valid_iff_takenFor (h : ∀ number content, d ≠ .list [number, content]) :
    sourceLine d = .valid l ↔ TakenFor d l := by
  constructor
  · intro hd
    unfold sourceLine at hd
    split at hd
    · cases hd
      exact .line _
    · exact lineFields_eq_valid_iff_takenFor.mp hd
    · cases hd
  · intro hd
    cases hd with
    | line => rfl
    | pair => exact absurd rfl (h _ _)
    | record hnumber hcontent hpositive htext =>
      exact lineFields_eq_valid_iff_takenFor.mpr (.record hnumber hcontent hpositive htext)

/-- Joining the pairs and checking the rest accepts each item for what it holds, wherever it stands
and whatever stands around it. -/
theorem joined_iff_takenFor {ds : List Datum} {ls : List SourceLine} :
    (∃ joined, joinPairs ds = .valid joined ∧
      List.Forall₂ (fun d l => sourceLine d = .valid l) joined ls) ↔
    List.Forall₂ TakenFor ds ls := by
  -- A pair is made into a line at once, which is then accepted as it is; any other item is left to be
  -- checked where it stands.
  induction ds using joinPairs.induct generalizing ls with
  | case1 => simp [joinPairs]
  | case2 number content ds ih =>
    rw [List.forall₂_cons_left_iff]
    simp only [joinPairs, Checked.andThen_eq_valid, Checked.map_eq_valid, ← ih]
    constructor
    · rintro ⟨_, ⟨l, hl, joined, hjoined, rfl⟩, hall⟩
      obtain ⟨_, ls, heq, hrest, rfl⟩ := List.forall₂_cons_left_iff.mp hall
      cases heq
      obtain ⟨hnumber, hcontent⟩ := linePair_eq_valid.mp hl
      exact ⟨l, ls, .pair hnumber hcontent, ⟨joined, hjoined, hrest⟩, rfl⟩
    · rintro ⟨l, ls, hpair, ⟨joined, hjoined, hall⟩, rfl⟩
      have hl : linePair number content = .valid l :=
        linePair_eq_valid.mpr (LineForm.pair.takenFor_iff.mp hpair)
      exact ⟨_, ⟨l, hl, joined, hjoined, rfl⟩, .cons rfl hall⟩
  | case3 d ds hpair ih =>
    rw [List.forall₂_cons_left_iff, joinPairs]
    · simp only [Checked.map_eq_valid, ← ih]
      constructor
      · rintro ⟨_, ⟨joined, hjoined, rfl⟩, hall⟩
        obtain ⟨l, ls, hd, hrest, rfl⟩ := List.forall₂_cons_left_iff.mp hall
        exact ⟨l, ls, (sourceLine_eq_valid_iff_takenFor hpair).mp hd, ⟨joined, hjoined, hrest⟩, rfl⟩
      · rintro ⟨l, ls, hd, ⟨joined, hjoined, hall⟩, rfl⟩
        exact ⟨_, ⟨joined, hjoined, rfl⟩,
          .cons ((sourceLine_eq_valid_iff_takenFor hpair).mpr hd) hall⟩
    · exact hpair

theorem excerptLines_eq_valid_iff {ds : List Datum} {ls : List SourceLine} :
    excerptLines (.list ds) = .valid ls ↔ List.Forall₂ TakenFor ds ls := by
  rw [excerptLines, Checked.andThen_eq_valid, ← joined_iff_takenFor]
  simp only [items_eq_valid]

theorem forall₂_takenFor_iff {ds ds' : List Datum} (h : List.Forall₂ Interchangeable ds ds')
    {ls : List SourceLine} : List.Forall₂ TakenFor ds ls ↔ List.Forall₂ TakenFor ds' ls := by
  induction h generalizing ls with
  | nil => rfl
  | cons hd _ ih =>
    rw [List.forall₂_cons_left_iff, List.forall₂_cons_left_iff]
    simp only [hd.takenFor_iff, ih]

theorem excerptFields_of_holds {e : Excerpt} (h : HoldsExcerpt fields e) :
    excerptFields fields = .ofExcept (Excerpt.make e.lines e.highlights e.file) := by
  simp only [excerptFields, h.lines, h.highlights, h.file]
  rfl

theorem excerptFields_of_not_holds (h : ¬ ∃ e, HoldsExcerpt fields e) :
    ∃ issues, excerptFields fields = .invalid issues := by
  have hsome : visitExcerptFields fields ≠ [] := mt visitExcerptFields_eq_nil_iff.mp h
  have hleads : LeadsTo _ (excerptFields fields) := visitExcerptFields_leadsTo
  rw [if_neg hsome] at hleads
  cases hfault : firstFault? (visitExcerptFields fields) with
  | some f => exact absurd (mem_of_firstFault? hfault) fault_notMem_visitExcerptFields
  | none =>
    have hissues : issuesOf (visitExcerptFields fields) ≠ [] :=
      mt (eq_nil_of_issuesOf hfault) hsome
    exact ⟨_, hleads.eq_invalid hfault hissues⟩

theorem sameVerdict_ofExcept_make (e : Excerpt) :
    SameVerdict (.ofExcept (Excerpt.make e.lines e.highlights e.file))
      (.ofExcept (Excerpt.make e.lines e.highlights e.file)) := by
  unfold Excerpt.make
  cases hmisfit : firstMisfit? e.lines e.highlights with
  | none => exact .accepted _
  | some f =>
    obtain ⟨h, -, hf⟩ := List.exists_of_findSome?_eq_some hmisfit
    obtain ⟨misfit, -, rfl⟩ := Option.map_eq_some_iff.mp hf
    exact .misfit _ _ _ _

theorem sameVerdict_of_holds_iff {fields' : List (String × Datum)}
    (h : ∀ e, HoldsExcerpt fields e ↔ HoldsExcerpt fields' e) :
    SameVerdict (excerptFields fields) (excerptFields fields') := by
  by_cases hsome : ∃ e, HoldsExcerpt fields e
  · obtain ⟨e, he⟩ := hsome
    rw [excerptFields_of_holds he, excerptFields_of_holds ((h e).mp he)]
    exact sameVerdict_ofExcept_make e
  · -- Fields that hold no excerpt have issues, and no highlight of theirs is looked at.
    have hsome' : ¬ ∃ e, HoldsExcerpt fields' e := by simpa only [← h] using hsome
    obtain ⟨issues, hissues⟩ := excerptFields_of_not_holds hsome
    obtain ⟨issues', hissues'⟩ := excerptFields_of_not_holds hsome'
    rw [hissues, hissues']
    exact .issues issues issues'

theorem holdsExcerpt_put_lines {e : Excerpt} (lines : Datum) :
    HoldsExcerpt (Keyed.put "lines" lines fields) e ↔ excerptLines lines = .valid e.lines ∧
      optional "highlights" [] (sequence highlight) fields = .valid e.highlights ∧
      optional "file" none textOrNull fields = .valid e.file := by
  have hlines : (Keyed.put "lines" lines fields).lookup "lines" = some lines :=
    Keyed.lookup_put_self _ _ _
  have hhighlights : (Keyed.put "lines" lines fields).lookup "highlights" =
      fields.lookup "highlights" := Keyed.lookup_put_of_ne (by decide) _ _
  have hfile : (Keyed.put "lines" lines fields).lookup "file" = fields.lookup "file" :=
    Keyed.lookup_put_of_ne (by decide) _ _
  constructor
  · rintro ⟨h₁, h₂, h₃⟩
    simp only [optional, hlines, hhighlights, hfile, Checked.within_eq_valid] at h₁ h₂ h₃ ⊢
    exact ⟨h₁, h₂, h₃⟩
  · rintro ⟨h₁, h₂, h₃⟩
    refine ⟨optional_of_lookup hlines h₁, ?_, ?_⟩
    · rwa [optional, hhighlights]
    · rwa [optional, hfile]

/-- An item of the lines of an excerpt is accepted for what it holds, wherever it stands and
whichever items stand around it, and a pair just when the record of the same two parts is, for the
same line. Items that give the same lines may therefore be exchanged: the check of the excerpt
comes to an equal excerpt, to the same highlight that does not fit, or to issues both times. -/
theorem line_forms_interchangeable :
    (∀ ds ls, excerptLines (.list ds) = .valid ls ↔ List.Forall₂ TakenFor ds ls) ∧
    (∀ number content l, TakenFor (.list [number, content]) l ↔
      sourceLine (.record [("number", number), ("text", content)]) = .valid l) ∧
    (∀ number content d l, LineForm number content d →
      (TakenFor d l ↔ positive number = .valid l.number ∧ text content = .valid l.text)) ∧
    ∀ fields ds ds', fields.lookup "lines" = some (.list ds) →
      List.Forall₂ Interchangeable ds ds' →
      SameVerdict (excerpt (.record fields))
        (excerpt (.record (Keyed.put "lines" (.list ds') fields))) := by
  refine ⟨fun ds ls => excerptLines_eq_valid_iff, ?_, fun _ _ _ _ h => h.takenFor_iff, ?_⟩
  · intro number content l
    have hrecord : LineForm number content (.record [("number", number), ("text", content)]) :=
      .record rfl rfl
    rw [sourceLine, lineFields_eq_valid_iff_takenFor, hrecord.takenFor_iff,
      LineForm.pair.takenFor_iff]
  · intro fields ds ds' hlines hforms
    refine sameVerdict_of_holds_iff fun e => ?_
    rw [holdsExcerpt_put_lines, excerptLines_eq_valid_iff, ← forall₂_takenFor_iff hforms,
      ← excerptLines_eq_valid_iff]
    constructor
    · rintro ⟨h₁, h₂, h₃⟩
      simp only [optional, hlines, Checked.within_eq_valid] at h₁
      exact ⟨h₁, h₂, h₃⟩
    · rintro ⟨h₁, h₂, h₃⟩
      exact ⟨optional_of_lookup hlines h₁, h₂, h₃⟩

def highlighted (lines : List Datum) : List (String × Datum) :=
  [("highlights", .list [.record [("line", .int 2), ("start", .int 0), ("end", .int 3)]]),
    ("lines", .list lines)]

def mixedItems : List Datum :=
  [.list [.text " +2", .text "abc"], .record [("text", .text "ab"), ("number", .fraction 20 1)],
    .list [.bool true, .text "a"], .line ⟨4, ""⟩]

def remixedItems : List Datum :=
  [.record [("number", .text " +2"), ("width", .null), ("text", .text "abc")],
    .list [.fraction 20 1, .text "ab"], .line ⟨1, "a"⟩, .line ⟨4, ""⟩]

/-- The shorter copy of line 2 does not hold the highlight, in whichever forms the lines are given. A
bad pair in front is met before all else and has no index, a bad record in its place has one. -/
theorem line_forms_interchangeable_remixed :
    TakenFor (.list [.text " +2", .text "abc"]) ⟨2, "abc"⟩ ∧
    excerpt (.record (highlighted mixedItems)) = .refused (.highlight 2 0 3 (.endPastLine 2)) ∧
    excerpt (.record (highlighted remixedItems)) = .refused (.highlight 2 0 3 (.endPastLine 2)) ∧
    SameVerdict
      (.invalid [⟨[.field "lines", .field "number"], .belowMinimum⟩])
      (.invalid [⟨[.field "lines", .index 0, .field "number"], .belowMinimum⟩,
        ⟨[.field "lines", .index 1], .recordExpected⟩]) := by
  obtain ⟨-, -, hform, hexchange⟩ := line_forms_interchangeable
  have hmixed : excerpt (.record (highlighted mixedItems)) =
      .refused (.highlight 2 0 3 (.endPastLine 2)) := rfl
  have hforms : List.Forall₂ Interchangeable mixedItems remixedItems :=
    .cons (.inr ⟨_, _, .pair, .record rfl rfl⟩) (.cons (.inr ⟨_, _, .record rfl rfl, .pair⟩)
      (.cons (.inr ⟨.bool true, .text "a", .pair, .line rfl rfl⟩) (.cons (.inl rfl) .nil)))
  refine ⟨(hform (.text " +2") (.text "abc") _ _ .pair).mpr ⟨rfl, rfl⟩, hmixed, ?_, ?_⟩
  · have hverdict := hexchange (highlighted mixedItems) _ _ rfl hforms
    rw [hmixed] at hverdict
    generalize hremixed : excerpt (.record (Keyed.put "lines" (.list remixedItems)
      (highlighted mixedItems))) = verdict at hverdict
    cases hverdict
    exact hremixed
  · exact hexchange (highlighted [.list [.int 0, .text "x"], .int 7]) _
      [.record [("number", .int 0), ("text", .text "x")], .int 7] rfl
      (.cons (.inr ⟨_, _, .pair, .record rfl rfl⟩) (.cons (.inl rfl) .nil))

end Validation

end Diagnostics
