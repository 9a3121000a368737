import Diagnostics.Proofs.Report.Runs

/-! # Checking undoes writing

A report is written as a record with its excerpts and its cause as records in it, along the whole
chain of causes. Whatever a program comes to hold passes the check when it is written in this way,
and the check gives back just what was written. So a value that was checked once stays as it is
when it is written and checked again.
-/
namespace Diagnostics

/-- Some fields hold a site, perhaps among others. -/
structure Site.WrittenIn (s : Site) (fields : List (String × Datum)) : Prop where
  file : fields.lookup "file" = some (.text s.file)
  line : fields.lookup "line" = some (.int s.line)
  column : fields.lookup "column" = some (.int s.column)

/-- The ways in which a site is written, which may be missing. -/
inductive Site.WrittenAs : Option Site → Datum → Prop
  | missing : WrittenAs none .null
  | record {s : Site} {fields : List (String × Datum)} (h : s.WrittenIn fields) :
      WrittenAs (some s) (.record fields)

/-- Some fields hold a finding, perhaps among others. -/
structure Finding.WrittenIn (f : Finding) (fields : List (String × Datum)) : Prop where
  identifier : fields.lookup "identifier" = some (.text f.identifier)
  title : fields.lookup "title" = some (.text f.title)
  level : fields.lookup "level" = some (.text f.level.word)
  message : fields.lookup "message" = some (.ofOption f.message)
  help : fields.lookup "help" = some (.ofOption f.help)
  docUrl : fields.lookup "doc_url" = some (.ofOption f.docUrl)
  site : ∃ d, fields.lookup "definition_site" = some d ∧ Site.WrittenAs f.site d
  excerpts : ∃ ds, fields.lookup "contexts" = some (.list ds) ∧
    List.Forall₂ Excerpt.WrittenAs f.excerpts ds

/-- The ways in which a report is written, its causes in it. -/
inductive Report.WrittenAs : Report → Datum → Prop
  | root {f : Finding} {fields : List (String × Datum)} (h : f.WrittenIn fields)
      (hcause : fields.lookup "cause" = some .null) : WrittenAs (.root f) (.record fields)
  | wrapping {f : Finding} {cause : Report} {fields : List (String × Datum)} {d : Datum}
      (h : f.WrittenIn fields) (hcause : fields.lookup "cause" = some d) (hd : cause.WrittenAs d) :
      WrittenAs (.wrapping f cause) (.record fields)

theorem Site.writtenIn_data (s : Site) : ∃ fields, s.data = .record fields ∧ s.WrittenIn fields :=
  ⟨_, rfl, rfl, rfl, rfl⟩

theorem Finding.writtenIn_fields (f : Finding) (rest : List (String × Datum)) :
    f.WrittenIn (f.fields ++ rest) := by
  refine ⟨rfl, rfl, rfl, rfl, rfl, rfl, ⟨_, rfl, ?_⟩,
    ⟨_, rfl, forall₂_map_data Excerpt.writtenAs_data f.excerpts⟩⟩
  cases f.site with
  | none => exact .missing
  | some s =>
    obtain ⟨fields, hdata, hwritten⟩ := s.writtenIn_data
    simp only [hdata]
    exact .record hwritten

theorem Report.writtenAs_data (r : Report) : r.WrittenAs r.data := by
  induction r with
  | root f => exact .root (f.writtenIn_fields _) rfl
  | wrapping f cause ih => exact .wrapping (f.writtenIn_fields _) rfl ih

namespace Validation
variable {fields : List (String × Datum)} {d : Datum}

theorem site_of_written {s : Site} (h : s.WrittenIn fields) :
    site (.record fields) = .valid s := by
  simp only [site, Checked.map_eq, Checked.seq_eq, Checked.seq_valid_iff, Checked.map_eq_valid]
  exact ⟨_, _, ⟨_, _, ⟨_, required_of_lookup h.file rfl, rfl⟩, required_of_lookup h.line rfl, rfl⟩,
    required_of_lookup h.column rfl, rfl⟩

theorem siteOrNull_of_written {s : Option Site} (h : Site.WrittenAs s d) :
    siteOrNull d = .valid s := by
  cases h with
  | missing => rfl
  | @record s fields hwritten =>
    rw [siteOrNull, site_of_written hwritten]
    · rfl
    · nofun

theorem finding_of_written {f : Finding} (hf : f.Sound) (h : f.WrittenIn fields) :
    finding fields = .valid f := by
  obtain ⟨s, hsite, hs⟩ := h.site
  obtain ⟨ds, hexcerpts, hds⟩ := h.excerpts
  exact finding_eq_valid.mpr ⟨required_of_lookup h.identifier rfl, required_of_lookup h.title rfl,
    optional_of_lookup h.level (level_word f.level),
    optional_of_lookup h.message (textOrNull_ofOption f.message),
    optional_of_lookup h.help (textOrNull_ofOption f.help),
    optional_of_lookup h.docUrl (textOrNull_ofOption f.docUrl),
    optional_of_lookup hsite (siteOrNull_of_written hs),
    optional_of_lookup hexcerpts
      (sequence_of_forall₂ hds fun e he _ => excerpt_of_written (hf.excerpts e he))⟩

theorem missingIdentity?_of_written {f : Finding} (hf : f.Sound) (h : f.WrittenIn fields) :
    missingIdentity? fields = none := by
  have hidentifier : hasField "identifier" fields = true := by
    simp [hasField, h.identifier, Datum.isGiven, hf.identifier_ne]
  have htitle : hasField "title" fields = true := by
    simp [hasField, h.title, Datum.isGiven, hf.title_ne]
  simp [missingIdentity?, hidentifier, htitle]

/-- However a sound report is written, the check gives it back. -/
theorem report_of_written {r : Report} (hr : r.Sound) (h : r.WrittenAs d) :
    report d = .valid r := by
  induction h with
  | @root f fields h hcause =>
    have hf : f.Sound := hr f List.mem_cons_self
    refine report_record_eq_valid.mpr ⟨missingIdentity?_of_written hf h, f, none,
      finding_of_written hf h, ?_, rfl⟩
    rw [cause_eq_optional]
    exact optional_of_lookup hcause rfl
  | @wrapping f cause fields d h hcause hd ih =>
    have hf : f.Sound := hr f List.mem_cons_self
    have hvalid : report d = .valid cause := ih fun g hg => hr g (List.mem_cons_of_mem f hg)
    refine report_record_eq_valid.mpr ⟨missingIdentity?_of_written hf h, f, some cause,
      finding_of_written hf h, ?_, rfl⟩
    have hnull : d ≠ .null := by
      rintro rfl
      cases hd
    rw [cause_eq_optional]
    refine optional_of_lookup hcause ?_
    rw [reportOrNull_of_ne hnull, hvalid]
    rfl

theorem one_le_of_excerptLines {lines : List SourceLine} (hd : d.Raw)
    (h : excerptLines d = .valid lines) : ∀ l ∈ lines, 1 ≤ l.number := by
  intro l hl
  rcases mem_excerptLines h hl with ⟨ds, rfl, hmem⟩ | ⟨fields, hline⟩
  · cases Datum.raw_list.mp hd _ hmem
  · exact one_le_of_lineFields hline

/-- What a check accepts of some data passes the check again when it is written as data, and stays
as it is. -/
def Settles {α : Type} (check : Check α) (data : α → Datum) (d : Datum) : Prop :=
  ∀ a, check d = .valid a → check (data a) = .valid a

end Validation

open Validation (Settles)

/-- Excerpts and reports that came about in any way pass the check again in every form in which they
are written, `data` among them, and come back unchanged. So the check of what an earlier check of
any data accepted changes nothing. -/
theorem check_undoes_writing :
    (∀ e : Excerpt, e.Reachable → e.WrittenAs e.data ∧
      ∀ d, e.WrittenAs d → Validation.excerpt d = .valid e) ∧
    (∀ desk : Desk, desk.Reachable → ∀ r ∈ desk.held.allReports, r.WrittenAs r.data ∧
      ∀ d, r.WrittenAs d → Validation.report d = .valid r) ∧
    ∀ d : Datum, d.Raw →
      Settles Validation.excerptLines (fun lines => .list (lines.map SourceLine.data)) d ∧
      Settles Validation.highlight Highlight.data d ∧ Settles Validation.excerpt Excerpt.data d ∧
      Settles Validation.site Site.data d ∧ Settles Validation.report Report.data d := by
  refine ⟨?_, ?_, ?_⟩
  · intro e he
    exact ⟨e.writtenAs_data, fun d => Validation.excerpt_of_written he.sound⟩
  · intro desk hdesk r hr
    exact ⟨r.writtenAs_data,
      fun d => Validation.report_of_written (hdesk.sound.reports r hr)⟩
  · intro d hd
    have hassembled : d.Assembled Report.Sound := hd.assembled
    refine ⟨?_, ?_, ?_, ?_, ?_⟩
    · intro lines hlines
      exact Validation.excerptLines_of_written (forall₂_map_data SourceLine.writtenAs_data lines)
        (Validation.one_le_of_excerptLines hd hlines)
    · intro h _
      exact Validation.highlight_of_written h.writtenAs_data
    · intro e he
      have hreach : e.Reachable := Validation.excerpt_reachable hassembled he
      exact Validation.excerpt_of_written hreach.sound e.writtenAs_data
    · intro s _
      obtain ⟨fields, hdata, hwritten⟩ := s.writtenIn_data
      rw [hdata]
      exact Validation.site_of_written hwritten
    · intro r hr
      have hsound : r.Sound := Validation.report_sound hassembled hr
      exact Validation.report_of_written hsound r.writtenAs_data

/-- Numbers as texts, as a truth value and with a point, a line as a record, and a cause. -/
def lenientData : Datum :=
  .record [("title", .text "outer"), ("identifier", .text "E2"), ("level", .text "info"),
    ("cause", .record [("identifier", .text "E1"), ("title", .text "inner"),
      ("contexts", .list [.record [("max", .null), ("highlights", .list [.record [("line", .text " 2 "),
        ("start", .bool false), ("end", .fraction 20 1), ("width", .text "?")]]),
        ("lines", .list [.list [.text "+2", .text "ab"],
          .record [("text", .text "abc"), ("number", .text "2.0")]])]])])]

def lenientExcerpt : Excerpt :=
  ⟨[⟨2, "ab"⟩, ⟨2, "abc"⟩], [⟨2, 0, 2, none, .error⟩], none⟩

def lenientReport : Report :=
  .wrapping (.bare "E2" "outer" .info)
    (.root ⟨"E1", "inner", .error, none, none, none, none, [lenientExcerpt]⟩)

theorem check_undoes_writing_lenient :
    (Desk.perform ⟨Session.initial, {}⟩ (.check lenientData)).held.allReports = [lenientReport] ∧
    Validation.report lenientReport.data = .valid lenientReport ∧
    Settles Validation.report Report.data lenientData ∧
    lenientExcerpt.Reachable ∧ Validation.excerpt lenientExcerpt.data = .valid lenientExcerpt := by
  obtain ⟨hexcerpts, hreports, hraw⟩ := check_undoes_writing
  have hdata : lenientData.Raw := by
    simp [lenientData, Datum.Raw.null, Datum.Raw.bool, Datum.Raw.fraction]
  have hheld : (Desk.perform ⟨Session.initial, {}⟩ (.check lenientData)).held.allReports =
      [lenientReport] := by rfl
  have hdesk : (Desk.perform ⟨Session.initial, {}⟩ (.check lenientData)).Reachable :=
    .step (.start _) hdata.assembled
  obtain ⟨hwritten, hcheck⟩ :=
    hreports _ hdesk lenientReport (by rw [hheld]; exact List.mem_singleton.mpr rfl)
  have hlines : Validation.excerpt lenientExcerpt.data = .valid lenientExcerpt := by rfl
  have hexcerpt : lenientExcerpt.Reachable := by
    refine .made (.checked ?_ hlines)
    intro ds l hds hl
    cases hds
    simp [lenientExcerpt, SourceLine.data] at hl
  obtain ⟨hform, hform_check⟩ := hexcerpts lenientExcerpt hexcerpt
  exact ⟨hheld, hcheck _ hwritten, (hraw lenientData hdata).2.2.2.2, hexcerpt,
    hform_check _ hform⟩

end Diagnostics
