import Diagnostics.Proofs.Validation.Incidents
import Diagnostics.Proofs.Validation.Reports
import Diagnostics.Proofs.Excerpt.HighlightBounds

/-! # Faults before issues

The outcome of a check is decided by what comes up when the data is visited: the first fault, if
there is one, whatever issues stand before or behind it, and else all issues in the order in which
they were met. The rules for combining checks say this for one combination each, and so every check
of a part, of an excerpt and of a report has the outcome that its visit leads to.
-/
namespace Diagnostics

section Incidents
variable {xs ys : List Incident}

theorem firstFault?_append : firstFault? (xs ++ ys) = (firstFault? xs).or (firstFault? ys) :=
  List.findSome?_append

theorem issuesOf_append : issuesOf (xs ++ ys) = issuesOf xs ++ issuesOf ys :=
  List.filterMap_append

theorem firstFault?_within (step : Step) :
    firstFault? (xs.map (.within step)) = firstFault? xs := by
  unfold firstFault?
  rw [List.findSome?_map]
  refine congrArg (fun f => xs.findSome? f) (funext fun i => ?_)
  cases i <;> rfl

theorem issuesOf_within (step : Step) : issuesOf (xs.map (.within step)) =
    (issuesOf xs).map fun i => { i with path := step :: i.path } := by
  unfold issuesOf
  rw [List.filterMap_map, List.map_filterMap]
  refine congrArg (fun f => xs.filterMap f) (funext fun i => ?_)
  cases i <;> rfl

end Incidents

namespace LeadsTo
variable {α β : Type} {xs ys : List Incident} {x : Checked α}

theorem eq_nil {a : α} (h : LeadsTo xs (.valid a)) : xs = [] := by
  cases h
  rfl

theorem exists_valid (h : LeadsTo [] x) : ∃ a, x = .valid a := by
  cases h with
  | valid a => exact ⟨a, rfl⟩
  | invalid _ hsome => exact absurd rfl hsome
  | refused hfault => cases hfault

theorem eq_refused {f : Fault} (h : LeadsTo xs x) (hfault : firstFault? xs = some f) :
    x = .refused f := by
  cases h with
  | valid a => cases hfault
  | invalid hnone _ =>
    rw [hnone] at hfault
    cases hfault
  | refused hsome =>
    rw [hsome] at hfault
    cases hfault
    rfl

theorem eq_invalid (h : LeadsTo xs x) (hfault : firstFault? xs = none)
    (hissues : issuesOf xs ≠ []) : x = .invalid (issuesOf xs) := by
  cases h with
  | valid a => exact absurd rfl hissues
  | invalid _ _ => rfl
  | refused hsome =>
    rw [hsome] at hfault
    cases hfault

theorem map (h : LeadsTo xs x) (f : α → β) : LeadsTo xs (x.map f) := by
  cases h with
  | valid a => exact .valid (f a)
  | invalid hfault hsome => exact .invalid hfault hsome
  | refused hfault => exact .refused hfault

theorem seq {f : Checked (α → β)} (hf : LeadsTo xs f) (hx : LeadsTo ys x) :
    LeadsTo (xs ++ ys) (f.seq x) := by
  cases hf with
  | valid g => exact hx.map g
  | refused hfault =>
    refine .refused ?_
    rw [firstFault?_append, hfault]
    rfl
  | invalid hfault hsome =>
    cases hx with
    | valid a =>
      rw [List.append_nil]
      exact .invalid hfault hsome
    | invalid hfault' hsome' =>
      rw [Checked.seq, ← issuesOf_append]
      refine .invalid ?_ (by simp [hsome])
      rw [firstFault?_append, hfault, hfault']
      rfl
    | refused hfault' =>
      refine .refused ?_
      rw [firstFault?_append, hfault, hfault']
      rfl

theorem andThen {f : α → Checked β} (hx : LeadsTo xs x)
    (hf : ∀ a, x = .valid a → LeadsTo ys (f a)) :
    LeadsTo (if xs = [] then ys else xs) (x.andThen f) := by
  cases hx with
  | valid a => exact hf a rfl
  | invalid hfault hsome =>
    rw [if_neg hsome]
    exact .invalid hfault hsome
  | refused hfault =>
    rw [if_neg (by rintro rfl; cases hfault)]
    exact .refused hfault

theorem within (h : LeadsTo xs x) (step : Step) :
    LeadsTo (xs.map (.within step)) (x.within step) := by
  cases h with
  | valid a => exact .valid a
  | invalid hfault hsome =>
    rw [Checked.within, ← issuesOf_within]
    refine .invalid ?_ (by simp [hsome])
    rw [firstFault?_within, hfault]
  | refused hfault =>
    refine .refused ?_
    rw [firstFault?_within, hfault]

theorem ofKind (kind : IssueKind) : LeadsTo [.ofKind kind] (Checked.issue kind : Checked α) :=
  .invalid rfl (by simp)

end LeadsTo

namespace Validation
variable {α : Type} {check : Check α} {visit : Visit} {fields : List (String × Datum)}

/-- A rule for a plain value accepts it or has one thing against it. -/
def Plain (check : Check α) : Prop :=
  ∀ d, (∃ a, check d = .valid a) ∨ ∃ kind, check d = .issue kind

theorem plain_integer : Plain integer := by
  intro d
  unfold integer
  repeat' split
  all_goals simp

theorem plain_positive : Plain positive := by
  intro d
  unfold positive
  rcases plain_integer d with ⟨n, hn⟩ | ⟨kind, hkind⟩
  · rw [hn]
    by_cases h : n < 1 <;> simp [Checked.andThen, h]
  · rw [hkind]
    exact Or.inr ⟨kind, rfl⟩

theorem plain_text : Plain text := by
  intro d
  cases d <;> simp [text]

theorem plain_textOrNull : Plain textOrNull := by
  intro d
  cases d <;> simp [textOrNull]

theorem plain_level : Plain level := by
  intro d
  unfold level
  repeat' split
  all_goals simp

theorem visitPlain_leadsTo (h : Plain check) (d : Datum) :
    LeadsTo (visitPlain check d) (check d) := by
  unfold visitPlain
  rcases h d with ⟨a, ha⟩ | ⟨kind, hkind⟩
  · rw [ha]
    exact .valid a
  · rw [hkind]
    exact .ofKind kind

theorem visitRequired_leadsTo (name : String) (h : ∀ d, LeadsTo (visit d) (check d)) :
    LeadsTo (visitRequired name visit fields) (required name check fields) := by
  unfold visitRequired required
  cases fields.lookup name with
  | some d => exact (h d).within _
  | none => exact .invalid rfl (by simp)

theorem visitOptional_leadsTo_of_lookup (name : String) (default : α)
    (h : ∀ d, fields.lookup name = some d → LeadsTo (visit d) (check d)) :
    LeadsTo (visitOptional name visit fields) (optional name default check fields) := by
  unfold visitOptional optional
  cases hd : fields.lookup name with
  | some d => exact (h d hd).within _
  | none => exact .valid default

theorem visitOptional_leadsTo (name : String) (default : α)
    (h : ∀ d, LeadsTo (visit d) (check d)) :
    LeadsTo (visitOptional name visit fields) (optional name default check fields) :=
  visitOptional_leadsTo_of_lookup name default fun d _ => h d

theorem visitItemsFrom_cons (first : Nat) (visit : Visit) (d : Datum) (ds : List Datum) :
    visitItemsFrom first visit (d :: ds) =
      (visit d).map (.within (.index first)) ++ visitItemsFrom (first + 1) visit ds := rfl

theorem visitItemsFrom_leadsTo {ds : List Datum} (h : ∀ d ∈ ds, LeadsTo (visit d) (check d))
    (first : Nat) : LeadsTo (visitItemsFrom first visit ds) (items check first ds) := by
  induction ds generalizing first with
  | nil => exact .valid []
  | cons d ds ih =>
    obtain ⟨hd, hds⟩ := List.forall_mem_cons.mp h
    rw [visitItemsFrom_cons]
    exact ((hd.within _).map _).seq (ih hds _)

theorem visitSequence_leadsTo (h : ∀ d, LeadsTo (visit d) (check d)) (d : Datum) :
    LeadsTo (visitSequence visit d) (sequence check d) := by
  cases d with
  | list ds => exact visitItemsFrom_leadsTo (fun d _ => h d) 0
  | _ => exact .ofKind _

theorem visitLineFields_leadsTo : LeadsTo (visitLineFields fields) (lineFields fields) :=
  ((visitRequired_leadsTo _ (visitPlain_leadsTo plain_positive)).map _).seq
    (visitRequired_leadsTo _ (visitPlain_leadsTo plain_text))

theorem visitPair_eq_nil {d : Datum} (h : ∀ number text, d ≠ .list [number, text]) :
    visitPair d = [] := by
  unfold visitPair
  split
  · exact absurd rfl (h _ _)
  · rfl

theorem visitLine_leadsTo {d : Datum} (h : ∀ number text, d ≠ .list [number, text]) :
    LeadsTo (visitLine d) (sourceLine d) := by
  unfold visitLine
  split
  · exact .valid _
  · exact absurd rfl (h _ _)
  · exact visitLineFields_leadsTo
  · rename_i hline _ hrecord
    unfold sourceLine
    split
    · exact absurd rfl (hline _)
    · exact absurd rfl (hrecord _)
    · exact .ofKind _

theorem visitFirstBadPair_cons (d : Datum) (ds : List Datum) :
    visitFirstBadPair (d :: ds) =
      if visitPair d = [] then visitFirstBadPair ds else visitPair d := by
  by_cases h : visitPair d = [] <;> simp [visitFirstBadPair, h]

theorem visitFirstBadPair_leadsTo (ds : List Datum) :
    LeadsTo (visitFirstBadPair ds) (joinPairs ds) := by
  induction ds using joinPairs.induct with
  | case1 => exact .valid []
  | case2 number text ds ih =>
    rw [visitFirstBadPair_cons, joinPairs]
    exact LeadsTo.andThen visitLineFields_leadsTo fun l _ => ih.map _
  | case3 d ds hpair ih =>
    rw [visitFirstBadPair_cons, if_pos (visitPair_eq_nil hpair), joinPairs]
    · exact ih.map _
    · exact hpair

/-- Once the pairs are joined, only the other lines are looked at, and each at its own index. -/
theorem visitItemsFrom_joined_leadsTo {ds joined : List Datum} (h : joinPairs ds = .valid joined)
    (first : Nat) :
    LeadsTo (visitItemsFrom first visitLine ds) (items sourceLine first joined) := by
  induction ds using joinPairs.induct generalizing joined first with
  | case1 =>
    cases h
    exact .valid []
  | case2 number text ds ih =>
    simp only [joinPairs, Checked.andThen_eq_valid, Checked.map_eq_valid] at h
    obtain ⟨l, -, rest, hrest, rfl⟩ := h
    exact (ih hrest (first + 1)).map _
  | case3 d ds hpair ih =>
    rw [joinPairs] at h
    · obtain ⟨rest, hrest, rfl⟩ := Checked.map_eq_valid.mp h
      rw [visitItemsFrom_cons]
      exact (((visitLine_leadsTo hpair).within _).map _).seq (ih hrest (first + 1))
    · exact hpair

theorem visitLines_leadsTo (d : Datum) : LeadsTo (visitLines d) (excerptLines d) := by
  cases d with
  | list ds =>
    exact (visitFirstBadPair_leadsTo ds).andThen fun joined h => visitItemsFrom_joined_leadsTo h 0
  | record fields =>
    have hname : ∀ d ∈ fields.map (fun f => Datum.text f.1),
        LeadsTo (visitLine d) (sourceLine d) := by
      intro d hd
      obtain ⟨f, -, rfl⟩ := List.mem_map.mp hd
      exact .ofKind _
    exact visitItemsFrom_leadsTo hname 0
  | _ => exact .ofKind _

theorem visitHighlight_leadsTo (d : Datum) : LeadsTo (visitHighlight d) (highlight d) := by
  have hinteger : ∀ d, LeadsTo (visitPlain integer d) (integer d) :=
    visitPlain_leadsTo plain_integer
  cases d with
  | highlight h => exact .valid h
  | record fields =>
    exact (((((visitRequired_leadsTo "line" hinteger).map _).seq
      (visitRequired_leadsTo "start" hinteger)).seq (visitRequired_leadsTo "end" hinteger)).seq
      (visitOptional_leadsTo "note" none (visitPlain_leadsTo plain_textOrNull))).seq
      (visitOptional_leadsTo "level" .error (visitPlain_leadsTo plain_level))
  | _ => exact .ofKind _

theorem firstFault?_misfits (lines : List SourceLine) (highlights : List Highlight) :
    firstFault? (misfits lines highlights) = firstMisfit? lines highlights := by
  unfold firstFault? misfits firstMisfit?
  induction highlights with
  | nil => rfl
  | cons h highlights ih =>
    rw [List.filterMap_cons, List.findSome?_cons]
    cases h.misfit? lines with
    | none => exact ih
    | some misfit => rfl

theorem misfits_eq_nil_iff {lines : List SourceLine} {highlights : List Highlight} :
    misfits lines highlights = [] ↔ firstMisfit? lines highlights = none := by
  simp [misfits, firstMisfit?, List.filterMap_eq_nil_iff]

theorem misfits_leadsTo (lines : List SourceLine) (highlights : List Highlight)
    (file : Option String) : LeadsTo (misfits lines highlights)
      (.ofExcept (Excerpt.make lines highlights file)) := by
  unfold Excerpt.make
  cases h : firstMisfit? lines highlights with
  | none =>
    rw [misfits_eq_nil_iff.mpr h]
    exact .valid _
  | some f => exact .refused (firstFault?_misfits lines highlights ▸ h)

theorem visitLinesField_leadsTo (fields : List (String × Datum)) :
    LeadsTo (visitOptional "lines" visitLines fields) (optional "lines" [] excerptLines fields) :=
  visitOptional_leadsTo _ _ visitLines_leadsTo

theorem visitHighlightsField_leadsTo (fields : List (String × Datum)) :
    LeadsTo (visitOptional "highlights" (visitSequence visitHighlight) fields)
      (optional "highlights" [] (sequence highlight) fields) :=
  visitOptional_leadsTo _ _ (visitSequence_leadsTo visitHighlight_leadsTo)

theorem visitFileField_leadsTo (fields : List (String × Datum)) :
    LeadsTo (visitOptional "file" (visitPlain textOrNull) fields)
      (optional "file" none textOrNull fields) :=
  visitOptional_leadsTo _ _ (visitPlain_leadsTo plain_textOrNull)

theorem visitExcerptFields_leadsTo : LeadsTo
    (if visitExcerptFields fields = [] then visitHighlights fields else visitExcerptFields fields)
    (excerptFields fields) := by
  have hparts := ((visitLinesField_leadsTo fields).map Prod.mk).seq
    (((visitHighlightsField_leadsTo fields).map Prod.mk).seq (visitFileField_leadsTo fields))
  rw [← List.append_assoc] at hparts
  refine LeadsTo.andThen hparts ?_
  rintro ⟨lines, highlights, file⟩ hvalid
  simp only [Checked.map_eq, Checked.seq_eq, Checked.seq_valid_iff, Checked.map_eq_valid] at hvalid
  obtain ⟨_, _, ⟨_, hl, rfl⟩, ⟨_, _, ⟨_, hh, rfl⟩, -, rfl⟩, heq⟩ := hvalid
  cases heq
  unfold visitHighlights
  rw [hl, hh]
  exact misfits_leadsTo lines highlights file

theorem visitExcerpt_leadsTo (d : Datum) : LeadsTo (visitExcerpt d) (excerpt d) := by
  cases d with
  | excerpt e => exact .valid e
  | record fields => exact visitExcerptFields_leadsTo
  | _ => exact .ofKind _

theorem visitSite_leadsTo (d : Datum) : LeadsTo (visitSite d) (siteOrNull d) := by
  have hinteger : ∀ d, LeadsTo (visitPlain integer d) (integer d) :=
    visitPlain_leadsTo plain_integer
  cases d with
  | null => exact .valid none
  | site s => exact .valid (some s)
  | record fields =>
    exact ((((visitRequired_leadsTo "file" (visitPlain_leadsTo plain_text)).map _).seq
      (visitRequired_leadsTo "line" hinteger)).seq (visitRequired_leadsTo "column" hinteger)).map _
  | _ => exact .ofKind _

theorem visitFinding_leadsTo : LeadsTo (visitFinding fields) (finding fields) := by
  have htext : ∀ d, LeadsTo (visitPlain text d) (text d) := visitPlain_leadsTo plain_text
  have hnull : ∀ d, LeadsTo (visitPlain textOrNull d) (textOrNull d) :=
    visitPlain_leadsTo plain_textOrNull
  exact ((((((((visitRequired_leadsTo "identifier" htext).map _).seq
    (visitRequired_leadsTo "title" htext)).seq
    (visitOptional_leadsTo "level" .error (visitPlain_leadsTo plain_level))).seq
    (visitOptional_leadsTo "message" none hnull)).seq (visitOptional_leadsTo "help" none hnull)).seq
    (visitOptional_leadsTo "doc_url" none hnull)).seq
    (visitOptional_leadsTo "definition_site" none visitSite_leadsTo)).seq
    (visitOptional_leadsTo "contexts" [] (visitSequence_leadsTo visitExcerpt_leadsTo))

def visitReportOrNull : Visit
  | .null => []
  | d => visitReport d

theorem visitReportOrNull_of_ne {d : Datum} (h : d ≠ .null) :
    visitReportOrNull d = visitReport d := by
  cases d <;> first | rfl | exact absurd rfl h

theorem visitCause_eq_optional (fields : List (String × Datum)) :
    visitCause fields = visitOptional "cause" visitReportOrNull fields := by
  have hsearch : visitCause fields = (fields.lookup "cause").elim []
      fun d => (visitReportOrNull d).map (.within (.field "cause")) := by
    refine eq_elim_lookup (by rw [visitCause]) (fun n d fields => ?_) fields
    by_cases hnull : d = .null
    · subst hnull
      rw [visitCause]
      rfl
    · rw [visitCause, visitReportOrNull_of_ne hnull]
      exact hnull
  rw [hsearch, visitOptional]
  cases fields.lookup "cause" <;> rfl

theorem visitReport_leadsTo (d : Datum) : LeadsTo (visitReport d) (report d) := by
  induction d using cause_induction with
  | record fields ih =>
    have hcause : LeadsTo (visitCause fields) (cause fields) := by
      rw [visitCause_eq_optional, cause_eq_optional]
      refine visitOptional_leadsTo_of_lookup "cause" none fun d hd => ?_
      by_cases hnull : d = .null
      · subst hnull
        exact .valid none
      · rw [visitReportOrNull_of_ne hnull, reportOrNull_of_ne hnull]
        exact (ih d hd).map some
    rw [visitReport, report]
    cases missingIdentity? fields with
    | some field => exact .refused rfl
    | none => exact (visitFinding_leadsTo.map _).seq hcause
  | other d hd =>
    cases d with
    | report r =>
      rw [visitReport, report]
      exact .valid r
    | record fields => exact absurd rfl (hd fields)
    | _ =>
      rw [visitReport, report]
      · exact .ofKind _
      all_goals simp

end Validation

end Diagnostics
