import Diagnostics.Proofs.Render.ColourErasure
import Diagnostics.Proofs.Text.Trimming

/-! # What plain text is made of

Plain style writes the spans of a row as they are, trimming only takes characters away, and rows and
sections are put together by line ends. So the plain text of a report or a collection is made of line
ends, of what the renderer writes by itself, and of what the texts are made of that the reports and
their causes hold. No control character comes in on the way.
-/
namespace Diagnostics

/-- The texts that the reports to be printed and their causes hold. -/
def Printable.texts : Printable → List String
  | .report r => r.texts
  | .collection c => c.reports.flatMap Report.texts

variable {P : Char → Prop}

theorem madeOf_plain_spans {ss : List Span} (h : ∀ s ∈ ss, MadeOf P s.text) :
    MadeOf P (Style.plain.spans ss) := by
  intro c hc
  rw [Style.toList_spans] at hc
  obtain ⟨s, hs, hc⟩ := List.mem_flatMap.mp hc
  rw [plain_span] at hc
  exact h s hs c hc

theorem madeOf_trimEnd {s : String} (h : MadeOf P s) : MadeOf P (Text.trimEnd s) := by
  intro c hc
  rw [Text.trimEnd, String.toList_ofList] at hc
  exact h c ((Text.prefix_dropEndWhile Text.isBlank s.toList).subset hc)

/-- Plain style adds nothing to the spans of a row. -/
theorem madeOf_plain_row {row : Row} (h : row.MadeOf P) : MadeOf P (Style.plain.row row) := by
  unfold Style.row
  split
  · exact madeOf_trimEnd (madeOf_plain_spans h)
  · exact madeOf_plain_spans h

theorem madeOf_intercalate {sep : String} {ss : List String} (hsep : MadeOf P sep)
    (h : ∀ s ∈ ss, MadeOf P s) : MadeOf P (sep.intercalate ss) := by
  induction ss with
  | nil => exact List.forall_mem_nil _
  | cons s ss ih =>
    obtain ⟨hs, hss⟩ := List.forall_mem_cons.mp h
    cases ss with
    | nil => rwa [String.intercalate_singleton]
    | cons t ts =>
      rw [String.intercalate_cons_cons, madeOf_append, madeOf_append]
      exact ⟨⟨hs, hsep⟩, ih hss⟩

section Own
variable (hown : ∀ c, isOwn c = true → P c) (hline : P '\n')
include hown hline

theorem madeOf_plain_report {r : Report} (htexts : ∀ s ∈ r.texts, MadeOf P s) :
    MadeOf P (r.render .plain) := by
  have hend : MadeOf P "\n" := by simpa [MadeOf] using hline
  refine madeOf_intercalate hend fun line hmem => ?_
  obtain ⟨row, hrow, rfl⟩ := List.mem_map.mp hmem
  exact madeOf_plain_row (madeOf_report_rows hown htexts row hrow)

theorem madeOf_plain_collection {c : Collection}
    (htexts : ∀ r ∈ c.reports, ∀ s ∈ r.texts, MadeOf P s) : MadeOf P (c.render .plain) := by
  have hends : MadeOf P "\n\n" := by simpa [MadeOf] using hline
  refine madeOf_intercalate hends ?_
  rw [List.forall_mem_append]
  constructor
  · intro shown hmem
    obtain ⟨r, hr, rfl⟩ := List.mem_map.mp hmem
    exact madeOf_plain_report hown hline (htexts r hr)
  · intro summary hmem
    rw [List.mem_singleton.mp hmem]
    exact madeOf_plain_row (madeOf_summaryRow hown c)

/-- Whatever holds of line ends, of what the renderer writes by itself and of all given texts holds
of plain text. -/
theorem madeOf_plain_text {p : Printable} (htexts : ∀ s ∈ p.texts, MadeOf P s) :
    MadeOf P p.text := by
  cases p with
  | report r => exact madeOf_plain_report hown hline htexts
  | collection c =>
    refine madeOf_plain_collection hown hline fun r hr s hs => ?_
    exact htexts s (List.mem_flatMap.mpr ⟨r, hr, hs⟩)

end Own

/-- Every character of the plain text of a report, with all its causes, or of a collection is a line
end, or printable ASCII that the renderer writes by itself, or stands in a text that the reports or
their causes hold. So no escape is shown unless one of these texts holds it. -/
theorem plain_text_origin (p : Printable) :
    p.text = p.render .plain ∧
    (∀ c ∈ (p.render .plain).toList, c = '\n' ∨
      (isOwn c = true ∧ 0x20 ≤ c.toNat ∧ c.toNat ≤ 0x7e) ∨ ∃ s ∈ p.texts, c ∈ s.toList) ∧
    ((∀ s ∈ p.texts, escape ∉ s.toList) → escape ∉ (p.render .plain).toList) := by
  refine ⟨rfl, ?_, ?_⟩
  · refine madeOf_plain_text (fun c hc => ?_) (.inl rfl) fun s hs c hc => ?_
    · exact .inr (.inl ⟨hc, printable_of_isOwn hc⟩)
    · exact .inr (.inr ⟨s, hs, hc⟩)
  · intro htexts
    refine madeOf_ne_escape_iff.mp (madeOf_plain_text isOwn_ne_escape (by decide) fun s hs => ?_)
    exact madeOf_ne_escape_iff.mpr (htexts s hs)

/-- A collection with a wrapped report whose texts hold a bell and a line end. -/
def ringing : Collection :=
  ⟨[.wrapping (.bare "E2" "outer" .info)
    (.root ⟨"E1", "in\u0007ner", .error, some "two\nlines", none, none, none,
      [⟨[⟨7, "let x"⟩], [⟨7, 4, 5, some "here  ", .error⟩], some "a.txt"⟩]⟩)]⟩

theorem plain_text_origin_ringing :
    (∀ s ∈ (Printable.collection ringing).texts, escape ∉ s.toList) ∧
    escape ∉ (ringing.render .plain).toList ∧
    ∀ c ∈ (ringing.render .plain).toList, c.toNat < 0x20 → c = '\n' ∨ c = '\u0007' := by
  have htexts : ∀ s ∈ (Printable.collection ringing).texts, escape ∉ s.toList := by decide
  obtain ⟨-, horigin, hescape⟩ := plain_text_origin (.collection ringing)
  refine ⟨htexts, hescape htexts, ?_⟩
  intro c hc hcontrol
  have hgiven : ((Printable.collection ringing).texts.all fun s => s.toList.all fun d =>
      decide (d.toNat < 0x20 → d = '\n' ∨ d = '\u0007')) = true := by decide
  rcases horigin c hc with rfl | ⟨-, hlow, -⟩ | ⟨s, hs, hmem⟩
  · exact .inl rfl
  · omega
  · have htext := List.all_eq_true.mp (List.all_eq_true.mp hgiven s hs) c hmem
    exact of_decide_eq_true htext hcontrol

end Diagnostics
