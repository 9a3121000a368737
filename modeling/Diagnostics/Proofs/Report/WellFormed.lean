import Diagnostics.Proofs.Excerpt.Runs
import Diagnostics.Proofs.Identifier.EntryPoints
import Diagnostics.Proofs.Keyed

/-! # Only well-formed reports are made

A finding is sound if it has an identifier and a title and all highlights of its excerpts fit, and a
report is sound if its finding and those of its causes are. Data may hold parts that were checked
before; where these were sound, a report that passes the check is sound, and so is one that is built
or that wraps a sound report.
-/
namespace Diagnostics

/-- The invariant of what one report says by itself. -/
structure Finding.Sound (f : Finding) : Prop where
  identifier_ne : f.identifier ≠ ""
  title_ne : f.title ≠ ""
  level_mem : f.level ∈ Level.all
  excerpts : ∀ e ∈ f.excerpts, e.Sound

/-- The invariant holds along the whole chain of a report. -/
def Report.Sound (r : Report) : Prop :=
  ∀ f ∈ r.chain, f.Sound

theorem Report.sound_make {f : Finding} {cause : Option Report} (hf : f.Sound)
    (hcause : ∀ c, cause = some c → c.Sound) : (make f cause).Sound := by
  cases cause with
  | none =>
    intro g hg
    rw [List.mem_singleton.mp hg]
    exact hf
  | some c =>
    intro g hg
    rcases List.mem_cons.mp hg with rfl | hg
    · exact hf
    · exact hcause c rfl g hg

namespace Datum

/-- The parts of some data, itself among them. -/
inductive Part (part : Datum) : Datum → Prop where
  | self : Part part part
  | item {d : Datum} {ds : List Datum} (hd : d ∈ ds) (h : Part part d) : Part part (.list ds)
  | field {name : String} {d : Datum} {fields : List (String × Datum)}
      (hd : fields.lookup name = some d) (h : Part part d) : Part part (.record fields)

/-- What stands in some data as checked before was checked: its reports are known, its excerpts came
about by operations on excerpts, and its lines passed the check of lines. -/
structure Assembled (known : Report → Prop) (d : Datum) : Prop where
  reports : ∀ r, Part (.report r) d → known r
  excerpts : ∀ e, Part (.excerpt e) d → e.Reachable
  lines : ∀ l, Part (.line l) d → l.Checked

/-- Data without any part that was checked before. -/
inductive Raw : Datum → Prop where
  | null : Raw .null
  | bool (b : Bool) : Raw (.bool b)
  | int (n : Int) : Raw (.int n)
  | fraction (mantissa : Int) (places : Nat) : Raw (.fraction mantissa places)
  | text (s : String) : Raw (.text s)
  | list {ds : List Datum} (h : ∀ d ∈ ds, Raw d) : Raw (.list ds)
  | record {fields : List (String × Datum)} (h : ∀ f ∈ fields, Raw f.2) : Raw (.record fields)

attribute [simp] Raw.int Raw.text

@[simp] theorem raw_list {ds : List Datum} : Raw (.list ds) ↔ ∀ d ∈ ds, Raw d := by
  constructor
  · rintro ⟨⟩
    assumption
  · exact .list

@[simp] theorem raw_record {fields : List (String × Datum)} :
    Raw (.record fields) ↔ ∀ f ∈ fields, Raw f.2 := by
  constructor
  · rintro ⟨⟩
    assumption
  · exact .record

theorem Raw.part {part d : Datum} (h : Part part d) (hd : Raw d) : Raw part := by
  induction h with
  | self => exact hd
  | item hmem _ ih => exact ih (raw_list.mp hd _ hmem)
  | field hlookup _ ih => exact ih (raw_record.mp hd _ (Keyed.mem_of_lookup hlookup))

theorem Raw.assembled {known : Report → Prop} {d : Datum} (hd : Raw d) : d.Assembled known := by
  constructor
  all_goals
    intro x hx
    cases hd.part hx

namespace Assembled
variable {known known' : Report → Prop} {d : Datum}

theorem mono (h : d.Assembled known) (hknown : ∀ r, known r → known' r) : d.Assembled known' :=
  ⟨fun r hr => hknown r (h.reports r hr), h.excerpts, h.lines⟩

theorem item {ds : List Datum} (h : Assembled known (.list ds)) (hd : d ∈ ds) :
    d.Assembled known :=
  ⟨fun r hr => h.reports r (.item hd hr), fun e he => h.excerpts e (.item hd he),
    fun l hl => h.lines l (.item hd hl)⟩

theorem field {fields : List (String × Datum)} {name : String}
    (h : Assembled known (.record fields)) (hd : fields.lookup name = some d) :
    d.Assembled known :=
  ⟨fun r hr => h.reports r (.field hd hr), fun e he => h.excerpts e (.field hd he),
    fun l hl => h.lines l (.field hd hl)⟩

end Assembled

end Datum

namespace Validation
variable {known : Report → Prop} {fields : List (String × Datum)} {d : Datum}

theorem excerpt_reachable {e : Excerpt} (hd : d.Assembled known) (h : excerpt d = .valid e) :
    e.Reachable := by
  cases d with
  | excerpt e' =>
    cases h
    exact hd.excerpts e .self
  | record block =>
    refine .made (.checked ?_ h)
    intro ds l hlines hl
    exact (hd.field hlines).lines l (.item hl .self)
  | _ => cases h

theorem excerpts_sound {es : List Excerpt} (hd : d.Assembled known)
    (h : sequence excerpt d = .valid es) : ∀ e ∈ es, e.Sound := by
  cases d with
  | list ds =>
    intro e he
    obtain ⟨d, hmem, hvalid⟩ := exists_of_mem_items h he
    exact (excerpt_reachable (hd.item hmem) hvalid).sound
  | _ => cases h

theorem finding_sound {f : Finding} (hidentity : missingIdentity? fields = none)
    (hcontexts : ∀ d, fields.lookup "contexts" = some d → d.Assembled Report.Sound)
    (h : finding fields = .valid f) : f.Sound := by
  have hholds := finding_eq_valid.mp h
  obtain ⟨hidentifier, htitle⟩ := hasField_of_missingIdentity?_eq_none hidentity
  refine ⟨ne_empty_of_hasField hidentifier hholds.identifier,
    ne_empty_of_hasField htitle hholds.title, f.level.mem_all, ?_⟩
  rcases optional_eq_valid.mp hholds.excerpts with ⟨-, hempty⟩ | ⟨d, hd, hes⟩
  · rw [← hempty]
    simp
  · exact excerpts_sound (hcontexts d hd) hes

/-- A report that passes the check is sound if all that was checked before in its data is. -/
theorem report_sound {r : Report} (hd : d.Assembled Report.Sound) (h : report d = .valid r) :
    r.Sound := by
  induction d using cause_induction generalizing r with
  | record fields ih =>
    obtain ⟨hidentity, f, c, hf, hc, rfl⟩ := report_record_eq_valid.mp h
    refine Report.sound_make (finding_sound hidentity (fun d hcontexts => hd.field hcontexts) hf) ?_
    rintro c rfl
    obtain ⟨d, hcause, hvalid⟩ := lookup_of_cause_eq_valid hc
    exact ih d hcause (hd.field hcause) hvalid
  | other d hother =>
    cases d with
    | report r' =>
      rw [report] at h
      cases h
      exact hd.reports r .self
    | record fields => exact absurd rfl (hother fields)
    | _ => simp [report, Checked.issue] at h

end Validation

namespace Builder
variable {b : Builder} {identifier : Option Variant} {title : Datum} {s s' : Session}

theorem excerpts_of_withIdentifier {v : Variant} {b' : Builder}
    (h : b.withIdentifier v s = .ok b' s') : b'.excerpts = b.excerpts := by
  obtain ⟨r, t, -, heq⟩ := action_bind_eq_ok_iff.mp h
  cases heq
  rfl

theorem overridden_none (b : Builder) (title : Datum) :
    b.overridden none title = pure (b.titledOver title) := by
  cases title <;> rfl

/-- What is put in at last leaves the excerpts alone. -/
theorem excerpts_of_overridden {b' : Builder} (h : b.overridden identifier title s = .ok b' s') :
    b'.excerpts = b.excerpts := by
  have htitled : ∀ c : Builder, (c.titledOver title).excerpts = c.excerpts := by
    intro c
    cases title <;> rfl
  cases identifier with
  | none =>
    rw [overridden_none] at h
    cases h
    exact htitled b
  | some v =>
    rw [overridden_some] at h
    obtain ⟨c, t, hc, heq⟩ := action_bind_eq_ok_iff.mp h
    cases heq
    rw [htitled, excerpts_of_withIdentifier hc]

theorem build_sound {r : Report} (hb : b.data.Assembled Report.Sound)
    (h : b.build identifier title s = .ok r s') : r.Sound := by
  obtain ⟨b', t, hb', hcheck⟩ := action_bind_eq_ok_iff.mp h
  rw [finish_eq_checkReport] at hcheck
  have hexcerpts := excerpts_of_overridden hb'
  have hvalid := Checked.toExcept_eq_ok.mp (ofExcept_eq_ok_iff.mp hcheck).1
  obtain ⟨hidentity, f, c, hf, hc, rfl⟩ := Validation.report_record_eq_valid.mp hvalid
  have hcontexts : (Datum.list b'.excerpts).Assembled Report.Sound :=
    hexcerpts ▸ hb.field (show List.lookup "contexts" _ = some (Datum.list b.excerpts) from rfl)
  have hf : f.Sound := by
    refine Validation.finding_sound hidentity ?_ hf
    intro d hd
    cases hd
    exact hcontexts
  refine Report.sound_make hf ?_
  rintro cause rfl
  cases hc

end Builder

namespace Report
variable {r wrapper : Report} {v : Variant} {title : Datum} {s s' : Session}

theorem wrap_sound {code : String} (hr : r.Sound) (h : r.wrap code title = .ok wrapper) :
    wrapper.Sound := by
  obtain ⟨t, hcode, ht, -, rfl⟩ := wrap_eq_ok_iff.mp h
  intro f hf
  rcases List.mem_cons.mp hf with rfl | hf
  · refine ⟨hcode, ht, r.level.mem_all, ?_⟩
    intro e he
    cases he
  · exact hr f hf

theorem convert_sound (hr : r.Sound) (h : r.convert v title s = .ok wrapper s') :
    wrapper.Sound := by
  obtain ⟨resolved, t, -, hwrap⟩ := wrap_of_convert h
  exact wrap_sound hr hwrap

end Report

theorem convertAll_sound {v : Variant} {title : Datum} {rs wrappers : List Report}
    {s s' : Session} (hrs : ∀ r ∈ rs, r.Sound) (h : convertAll v title rs s = .ok wrappers s') :
    ∀ w ∈ wrappers, w.Sound := by
  induction rs generalizing wrappers s s' with
  | nil =>
    cases h
    simp
  | cons r rs ih =>
    obtain ⟨hr, hrs⟩ := List.forall_mem_cons.mp hrs
    obtain ⟨wrapper, t, hwrapper, h⟩ := action_bind_eq_ok_iff.mp h
    obtain ⟨rest, u, hrest, h⟩ := action_bind_eq_ok_iff.mp h
    cases h
    exact List.forall_mem_cons.mpr ⟨Report.convert_sound hr hwrapper, ih hrs hrest⟩

end Diagnostics
