import Diagnostics.Proofs.Builder.LastWrites
import Diagnostics.Proofs.Success

/-! # The link of a report and its identifier

An identifier that is resolved brings its link, and one without a link leaves the link that is there:
one that was given by hand, but also one that came with an identifier that is replaced now. Where no
link is given by hand, a report thus carries the link of the last identifier that had any. This is the
link of its own identifier exactly if that one has a link, or if none before it had.
-/
namespace Diagnostics

theorem getLast?_filterMap_eq_iff {α β : Type} {f : α → Option β} (xs : List α) :
    (xs.filterMap f).getLast? = xs.getLast?.bind f ↔
      (∃ x ∈ xs.getLast?, f x ≠ none) ∨ ∀ x ∈ xs, f x = none := by
  rcases List.eq_nil_or_concat' xs with rfl | ⟨ys, x, rfl⟩
  · simp
  · cases hx : f x with
    | some y => simp [hx]
    | none => simp [hx, or_imp, forall_and]

namespace Builder

def asked (turns : List Turn) : List (Session × Variant) :=
  turns.filterMap fun t => match t.2 with
    | .withIdentifier v => some (t.1, v)
    | _ => none

def resolutions (turns : List Turn) : Except Fault (List Resolved) :=
  (asked turns).mapM fun q => Session.outcome (Session.identify q.2) q.1

/-- The link of a report is the one that came with its identifier, where some identifiers were
resolved in turn. -/
def LinkIsOfIdentifier (r : Report) (rs : List Resolved) : Prop :=
  r.finding.docUrl = rs.getLast?.bind Resolved.docUrl

/-- What some entries say of the identifier and the link comes from identifiers alone. -/
structure ComesFrom (es : List Entry) (rs : List Resolved) : Prop where
  identifier : es.filterMap Entry.identifier? = rs.map fun r => .text r.code
  docUrl : es.filterMap Entry.docUrl? = (rs.filterMap Resolved.docUrl).map .text

theorem entry_cases {t : Turn} {e : Entry} (ht : ∀ url, t.2 ≠ .withDocUrl url)
    (he : Session.outcome t.2.entry t.1 = .ok e) :
    (∃ v r, t.2 = .withIdentifier v ∧ Session.outcome (Session.identify v) t.1 = .ok r ∧
      e = .identifier r) ∨
    (∀ v, t.2 ≠ .withIdentifier v) ∧ e.identifier? = none ∧ e.docUrl? = none := by
  obtain ⟨s, c⟩ := t
  cases c with
  | withIdentifier v =>
    cases h : Session.identify v s with
    | ok r s' =>
      have hentry : Call.entry (.withIdentifier v) s = .ok (.identifier r) s' :=
        Session.bind_of_ok h
      rw [Session.outcome_of_ok hentry] at he
      cases he
      exact .inl ⟨v, r, rfl, Session.outcome_of_ok h, rfl⟩
    | error fault s' =>
      have hentry : Call.entry (.withIdentifier v) s = .error fault s' := Session.bind_of_error h
      rw [Session.outcome_of_error hentry] at he
      cases he
  | withDocUrl url => exact absurd rfl (ht url)
  | _ =>
    cases he
    exact .inr ⟨by simp, rfl, rfl⟩

theorem asked_cons_of_ne {t : Turn} (h : ∀ v, t.2 ≠ .withIdentifier v) (turns : List Turn) :
    asked (t :: turns) = asked turns := by
  obtain ⟨s, c⟩ := t
  cases c with
  | withIdentifier v => exact absurd rfl (h v)
  | _ => rfl

theorem entries_cons_eq_ok {t : Turn} {turns : List Turn} {es : List Entry} :
    entries (t :: turns) = .ok es ↔ ∃ e more, Session.outcome t.2.entry t.1 = .ok e ∧
      entries turns = .ok more ∧ e :: more = es := by
  unfold entries
  simp only [List.mapM_cons, bind_eq_ok_iff, pure, Except.pure, Except.ok.injEq]
  constructor
  · rintro ⟨e, he, more, hmore, rfl⟩
    exact ⟨e, more, he, hmore, rfl⟩
  · rintro ⟨e, more, he, hmore, rfl⟩
    exact ⟨e, he, more, hmore, rfl⟩

/-- If no link is given by hand, the entries of some calls say of the identifier and the link just
what the identifiers among them are resolved to. -/
theorem exists_resolutions {turns : List Turn} {es : List Entry}
    (hcalls : ∀ t ∈ turns, ∀ url, t.2 ≠ .withDocUrl url) (hes : entries turns = .ok es) :
    ∃ rs, resolutions turns = .ok rs ∧ ComesFrom es rs := by
  induction turns generalizing es with
  | nil =>
    cases hes
    exact ⟨[], rfl, rfl, rfl⟩
  | cons t turns ih =>
    obtain ⟨ht, hrest⟩ := List.forall_mem_cons.mp hcalls
    obtain ⟨e, more, he, hmore, rfl⟩ := entries_cons_eq_ok.mp hes
    obtain ⟨rs, hrs, hfrom⟩ := ih hrest hmore
    -- Either the call adds a resolution in front, or it leaves the resolutions as they are.
    rcases entry_cases ht he with ⟨v, r, hv, hr, rfl⟩ | ⟨hno, hidentifier, hdocUrl⟩
    · refine ⟨r :: rs, ?_, ?_, ?_⟩
      · have hasked : asked (t :: turns) = (t.1, v) :: asked turns := by simp [asked, hv]
        unfold resolutions at hrs ⊢
        rw [hasked, List.mapM_cons, hr, hrs]
        rfl
      · simp [Entry.identifier?, hfrom.identifier]
      · cases hurl : r.docUrl <;> simp [Entry.docUrl?, hurl, hfrom.docUrl]
    · refine ⟨rs, ?_, ?_, ?_⟩
      · rwa [resolutions, asked_cons_of_ne hno]
      · simp [hidentifier, hfrom.identifier]
      · simp [hdocUrl, hfrom.docUrl]

theorem docUrl_of_checkReport {b : Builder} {r : Report}
    (h : Validation.checkReport b.data = .ok r) :
    Validation.textOrNull b.docUrl = .valid r.finding.docUrl := by
  obtain ⟨-, f, c, hf, -, rfl⟩ :=
    Validation.report_record_eq_valid.mp (Checked.toExcept_eq_ok.mp h)
  have hdocUrl := (Validation.finding_eq_valid.mp hf).docUrl
  rw [Report.finding_make]
  exact Checked.within_eq_valid.mp hdocUrl

/-- A report that a builder is finished to is what the check makes of all entries, those of the
identifier and the title given at the end included. -/
theorem exists_entries_of_build {b b' : Builder} {turns : List Turn}
    (hb' : performAll turns b = .ok b') {identifier : Option Variant} {title : Datum} {s : Session}
    {r : Report} (hr : Session.outcome (b'.build identifier title) s = .ok r) :
    ∃ es, entries (turns ++ overrides identifier title s) = .ok es ∧
      Validation.checkReport (b.written es).data = .ok r := by
  rw [outcome_build] at hr
  obtain ⟨last, hlast, hcheck⟩ := bind_eq_ok_iff.mp hr
  have hall : performAll (turns ++ overrides identifier title s) b = .ok last := by
    rw [performAll_append, hb']
    exact hlast
  rw [performAll_eq] at hall
  cases hes : entries (turns ++ overrides identifier title s) with
  | error fault =>
    rw [hes] at hall
    cases hall
  | ok es =>
    rw [hes] at hall
    cases hall
    exact ⟨es, rfl, hcheck⟩

theorem no_link_in_overrides {turns : List Turn} (identifier : Option Variant) (title : Datum)
    (s : Session) (hcalls : ∀ t ∈ turns, ∀ url, t.2 ≠ .withDocUrl url) :
    ∀ t ∈ turns ++ overrides identifier title s, ∀ url, t.2 ≠ .withDocUrl url := by
  rw [List.forall_mem_append]
  refine ⟨hcalls, ?_⟩
  cases identifier <;> cases title <;> simp [overrides]

end Builder

open Builder (Turn performAll overrides resolutions LinkIsOfIdentifier)

/-- The link of a report for which none was given by hand. The identifiers that were resolved for it,
one given at the end included, leave the code of the last of them and the link of the last one that
has a link. So the report carries the link of its own identifier exactly if that one has a link or
none of them has; otherwise it keeps the link of an identifier that was replaced. -/
theorem link_is_of_identifier_iff {b b' : Builder} {turns : List Turn} (hb : b.docUrl = .null)
    (hcalls : ∀ t ∈ turns, ∀ url, t.2 ≠ .withDocUrl url) (hb' : performAll turns b = .ok b')
    {identifier : Option Variant} {title : Datum} {s : Session} {r : Report}
    (hr : Session.outcome (b'.build identifier title) s = .ok r) :
    ∃ rs, resolutions (turns ++ overrides identifier title s) = .ok rs ∧
      (rs = [] → b.identifier = .text r.identifier) ∧
      (∀ last ∈ rs.getLast?, last.code = r.identifier) ∧
      r.finding.docUrl = (rs.filterMap Resolved.docUrl).getLast? ∧
      (LinkIsOfIdentifier r rs ↔
        (∃ last ∈ rs.getLast?, last.docUrl ≠ none) ∨ ∀ x ∈ rs, x.docUrl = none) := by
  obtain ⟨es, hes, hcheck⟩ := Builder.exists_entries_of_build hb' hr
  obtain ⟨rs, hrs, hfrom⟩ := Builder.exists_resolutions
    (Builder.no_link_in_overrides identifier title s hcalls) hes
  have hidentifier : ((rs.map fun r => Datum.text r.code).getLast?).getD b.identifier =
      .text r.identifier := by
    rw [← hfrom.identifier]
    exact Builder.identifier_of_checkReport hcheck
  have hdocUrl : r.finding.docUrl = (rs.filterMap Resolved.docUrl).getLast? := by
    have hlink := Builder.docUrl_of_checkReport hcheck
    have hwritten : (b.written es).docUrl = .ofOption (rs.filterMap Resolved.docUrl).getLast? := by
      simp only [Builder.written, Builder.lastWritten, hfrom.docUrl, hb, List.getLast?_map]
      cases (rs.filterMap Resolved.docUrl).getLast? <;> rfl
    rw [hwritten, Validation.textOrNull_ofOption] at hlink
    exact (Checked.valid.inj hlink).symm
  refine ⟨rs, hrs, ?_, ?_, hdocUrl, ?_⟩
  · rintro rfl
    exact hidentifier
  · intro last hlast
    rw [List.getLast?_map, Option.mem_def.mp hlast] at hidentifier
    exact Datum.text.inj hidentifier
  · unfold LinkIsOfIdentifier
    rw [hdocUrl]
    exact getLast?_filterMap_eq_iff rs

def relinkedTurns : List Turn :=
  [(diskSession, .withIdentifier diskFull), (Session.initial, .warning),
    (Session.initial, .withIdentifier (.plain (.text "E2")))]

def diskResolved : Resolved := ⟨"D1", some "https://example.org/D1"⟩

def relinkedBuilder : Builder where
  identifier := .text "E2"
  title := .text "full"
  level := .text "warning"
  docUrl := .text "https://example.org/D1"

def relinkedReport (code : String) : Report :=
  .root ⟨code, "full", .warning, none, none, diskResolved.docUrl, none, []⟩

theorem link_outlives_identifier :
    performAll relinkedTurns (Builder.withTitle {} (.text "full")) = .ok relinkedBuilder ∧
    Session.outcome (relinkedBuilder.build none .null) Session.initial =
      .ok (relinkedReport "E2") ∧
    resolutions relinkedTurns = .ok [diskResolved, ⟨"E2", none⟩] ∧
    ¬ LinkIsOfIdentifier (relinkedReport "E2") [diskResolved, ⟨"E2", none⟩] := by
  refine ⟨rfl, rfl, rfl, ?_⟩
  intro h
  cases h

/-- The same builder, finished as it is and with the first identifier given once more. -/
theorem link_is_of_identifier_iff_relinked :
    performAll relinkedTurns (Builder.withTitle {} (.text "full")) = .ok relinkedBuilder ∧
    (Session.outcome (relinkedBuilder.build none .null) diskSession = .ok (relinkedReport "E2") ∧
      ¬ LinkIsOfIdentifier (relinkedReport "E2") [diskResolved, ⟨"E2", none⟩]) ∧
    Session.outcome (relinkedBuilder.build (some diskFull) .null) diskSession =
      .ok (relinkedReport "D1") ∧
    LinkIsOfIdentifier (relinkedReport "D1") [diskResolved, ⟨"E2", none⟩, diskResolved] := by
  have hcalls : ∀ t ∈ relinkedTurns, ∀ url, t.2 ≠ .withDocUrl url := by simp [relinkedTurns]
  have hmade : performAll relinkedTurns (Builder.withTitle {} (.text "full")) =
      .ok relinkedBuilder := rfl
  have hkept : Session.outcome (relinkedBuilder.build none .null) diskSession =
      .ok (relinkedReport "E2") := rfl
  have hnew : Session.outcome (relinkedBuilder.build (some diskFull) .null) diskSession =
      .ok (relinkedReport "D1") := rfl
  obtain ⟨rs, hrs, -, -, -, hiff⟩ := link_is_of_identifier_iff rfl hcalls hmade hkept
  obtain ⟨rs', hrs', -, -, -, hiff'⟩ := link_is_of_identifier_iff rfl hcalls hmade hnew
  obtain rfl : rs = [diskResolved, ⟨"E2", none⟩] := Except.ok.inj hrs.symm
  obtain rfl : rs' = [diskResolved, ⟨"E2", none⟩, diskResolved] := Except.ok.inj hrs'.symm
  refine ⟨hmade, ⟨hkept, fun h => ?_⟩, hnew, hiff'.mpr (.inl ⟨_, rfl, by simp [diskResolved]⟩)⟩
  have hlinked := hiff.mp h
  simp [diskResolved] at hlinked

end Diagnostics
