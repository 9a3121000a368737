import Diagnostics.Proofs.Report.WellFormed

/-! # No malformed report is ever held

A program checks data, gathers builders and finishes them, converts reports, and carries reports in
errors and collections, in any order and as often as it likes, while the session may change in any
way in between. Whatever it holds after that is sound. An operation that fails adds nothing to what
is held, and of the session it changes only the journal and what is remembered of resolutions.
-/
namespace Diagnostics

namespace Session
variable {α β : Type} {s s' s'' : Session}

/-- The providers, the styles, the environment, the types and the log are as before. -/
structure Kept (s s' : Session) : Prop where
  providers : s'.registry.providers = s.registry.providers
  styles : s'.styles = s.styles
  environment : s'.environment = s.environment
  typeCount : s'.typeCount = s.typeCount
  logSetUp : s'.logSetUp = s.logSetUp

theorem Kept.refl (s : Session) : s.Kept s :=
  ⟨rfl, rfl, rfl, rfl, rfl⟩

theorem Kept.trans (h : s.Kept s') (h' : s'.Kept s'') : s.Kept s'' :=
  ⟨h'.providers.trans h.providers, h'.styles.trans h.styles, h'.environment.trans h.environment,
    h'.typeCount.trans h.typeCount, h'.logSetUp.trans h.logSetUp⟩

/-- An action that changes no more than that, also when it fails. -/
def Keeps (x : Action α) : Prop :=
  ∀ s : Session, s.Kept (after x s)

theorem keeps_pure (a : α) : Keeps (pure a) :=
  Kept.refl

theorem keeps_ofExcept (x : Except Fault α) : Keeps (ofExcept x) := by
  cases x <;> exact Kept.refl

theorem keeps_log (topic : Topic) (weight : Weight) (text : String) :
    Keeps (log topic weight text) :=
  fun _ => ⟨rfl, rfl, rfl, rfl, rfl⟩

theorem keeps_bind {x : Action α} {f : α → Action β} (hx : Keeps x) (hf : ∀ a, Keeps (f a)) :
    Keeps (x >>= f) := by
  intro s
  have hkept := hx s
  cases h : x s with
  | ok a s' =>
    rw [after_of_ok h] at hkept
    have hrest := hf a s'
    unfold after at hrest ⊢
    rw [bind_of_ok h]
    exact hkept.trans hrest
  | error fault s' =>
    rw [after_of_error h] at hkept
    rwa [after_of_error (bind_of_error h)]

theorem keeps_resolve (v : Variant) : Keeps (resolve v) := by
  intro s
  have hresolution := Registry.resolution s.registry v
  cases h : Registry.resolve v s.registry with
  | ok a reg =>
    obtain ⟨journal, hresolve⟩ := resolve_of_ok h
    rw [after_of_ok hresolve]
    rw [h] at hresolution
    cases hresolution <;> exact ⟨rfl, rfl, rfl, rfl, rfl⟩
  | error fault reg =>
    rw [after_of_error (resolve_of_error h)]
    rw [h] at hresolution
    cases hresolution <;> exact ⟨rfl, rfl, rfl, rfl, rfl⟩

theorem keeps_identify (v : Variant) : Keeps (identify v) := by
  unfold identify
  cases v.text? with
  | some code => exact keeps_pure _
  | none => exact keeps_resolve v

end Session

open Session (Keeps keeps_pure keeps_bind keeps_ofExcept keeps_identify)

theorem Report.keeps_convert (v : Variant) (title : Datum) (r : Report) :
    Keeps (r.convert v title) :=
  keeps_bind (keeps_identify v) fun _ => keeps_bind (keeps_ofExcept _) fun _ =>
    keeps_bind (Session.keeps_log _ _ _) fun _ => keeps_pure _

theorem keeps_convertAll (v : Variant) (title : Datum) (rs : List Report) :
    Keeps (convertAll v title rs) := by
  induction rs with
  | nil => exact keeps_pure []
  | cons r rs ih =>
    exact keeps_bind (r.keeps_convert v title) fun _ => keeps_bind ih fun _ => keeps_pure _

theorem Builder.keeps_build (b : Builder) (v : Option Variant) (title : Datum) :
    Keeps (b.build v title) := by
  refine keeps_bind ?_ fun _ => keeps_ofExcept _
  cases v with
  | none =>
    rw [overridden_none]
    exact keeps_pure _
  | some v =>
    rw [overridden_some]
    exact keeps_bind (keeps_bind (keeps_identify v) fun _ => keeps_pure _) fun _ => keeps_pure _

section EmptyCode
variable {v : Variant} {resolved : Resolved} {s s' : Session}

theorem Report.convert_of_empty_code (h : Session.identify v s = .ok resolved s')
    (hcode : resolved.code = "") (title : Datum) (r : Report) :
    r.convert v title s = .error (.missingField .identifier) s' := by
  have hwrap : r.wrap resolved.code title = .error (.missingField .identifier) := by
    rw [hcode]
    exact Validation.checkReport_of_missingIdentity? rfl
  exact convert_of_wrap_error h hwrap

theorem Builder.build_of_empty_code (h : Session.identify v s = .ok resolved s')
    (hcode : resolved.code = "") (title : Datum) (b : Builder) :
    b.build (some v) title s = .error (.missingField .identifier) s' := by
  have hidentifier : ((b.resolvedTo resolved).titledOver title).identifier = .text "" := by
    rw [titledOver_identifier, resolvedTo, hcode]
  have hcheck : Validation.checkReport ((b.resolvedTo resolved).titledOver title).data =
      .error (.missingField .identifier) := by
    refine Validation.checkReport_of_missingIdentity?
      (Validation.missingIdentity?_of_no_identifier ?_)
    rw [hidentifier]
    rfl
  rw [build_of_ok h, hcheck]
  rfl

end EmptyCode

/-- What a program holds. -/
structure Holdings where
  reports : List Report := []
  builders : List Builder := []
  errors : List ReportedError := []
  collections : List Collection := []

namespace Holdings

def add (held made : Holdings) : Holdings :=
  ⟨held.reports ++ made.reports, held.builders ++ made.builders, held.errors ++ made.errors,
    held.collections ++ made.collections⟩

/-- The reports by themselves, in errors and in collections. -/
def allReports (held : Holdings) : List Report :=
  held.reports ++ held.errors.map ReportedError.report ++
    held.collections.flatMap Collection.reports

theorem mem_allReports {held : Holdings} {r : Report} :
    r ∈ held.allReports ↔ r ∈ held.reports ∨ (∃ e ∈ held.errors, e.report = r) ∨
      ∃ c ∈ held.collections, r ∈ c.reports := by
  simp [allReports]

/-- The invariant of what is held. -/
structure Sound (held : Holdings) : Prop where
  reports : ∀ r ∈ held.allReports, r.Sound
  builders : ∀ b ∈ held.builders, b.data.Assembled Report.Sound

theorem sound_nothing : Sound {} :=
  ⟨by simp [allReports], by simp⟩

theorem sound_reports {rs : List Report} (h : ∀ r ∈ rs, r.Sound) : Sound { reports := rs } :=
  ⟨by simpa [allReports] using h, by simp⟩

theorem sound_builder {b : Builder} (h : b.data.Assembled Report.Sound) :
    Sound { builders := [b] } :=
  ⟨by simp [allReports], by simpa using h⟩

theorem sound_error {e : ReportedError} (h : e.report.Sound) : Sound { errors := [e] } :=
  ⟨by simpa [allReports] using h, by simp⟩

theorem sound_collection {c : Collection} (h : ∀ r ∈ c.reports, r.Sound) :
    Sound { collections := [c] } :=
  ⟨by simpa [allReports] using h, by simp⟩

theorem Sound.add {held made : Holdings} (hheld : held.Sound) (hmade : made.Sound) :
    (held.add made).Sound := by
  constructor
  · intro r hr
    have hmem : r ∈ held.allReports ∨ r ∈ made.allReports := by
      simp only [mem_allReports, Holdings.add, List.mem_append] at hr ⊢
      grind
    exact hmem.elim (hheld.reports r) (hmade.reports r)
  · intro b hb
    exact (List.mem_append.mp hb).elim (hheld.builders b) (hmade.builders b)

theorem Sound.error {held : Holdings} (h : held.Sound) {e : ReportedError}
    (he : e ∈ held.errors) : e.report.Sound :=
  h.reports _ (mem_allReports.mpr (Or.inr (Or.inl ⟨e, he, rfl⟩)))

theorem Sound.collection {held : Holdings} (h : held.Sound) {c : Collection}
    (hc : c ∈ held.collections) : ∀ r ∈ c.reports, r.Sound :=
  fun r hr => h.reports r (mem_allReports.mpr (Or.inr (Or.inr ⟨c, hc, hr⟩)))

end Holdings

inductive Operation where
  | check (d : Datum)
  | gather (b : Builder)
  | build (b : Builder) (identifier : Option Variant) (title : Datum)
  | convert (r : Report) (identifier : Variant) (title : Datum)
  | convertAll (rs : List Report) (identifier : Variant) (title : Datum)
  | carry (r : Report)
  | convertError (e : ReportedError) (identifier : Variant) (title : Datum)
  | collect (rs : List Report)
  | convertCollection (c : Collection) (identifier : Variant) (title : Datum)
  /-- Providers are registered, or anything else happens to the session. -/
  | meanwhile (s : Session)

namespace Operation

def make : Operation → Action Holdings
  | .check d => return { reports := [← Session.ofExcept (Validation.checkReport d)] }
  | .gather b => return { builders := [b] }
  | .build b identifier title => return { reports := [← b.build identifier title] }
  | .convert r identifier title => return { reports := [← r.convert identifier title] }
  | .convertAll rs identifier title =>
    return { reports := ← Diagnostics.convertAll identifier title rs }
  | .carry r => return { errors := [⟨r⟩] }
  | .convertError e identifier title => return { errors := [← e.convert identifier title] }
  | .collect rs => return { collections := [⟨rs⟩] }
  | .convertCollection c identifier title =>
    return { collections := [← c.convert identifier title] }
  | .meanwhile s => do
    set s
    return {}

/-- An operation works on what is held, and on data that is put together from it in any way. Data
that holds nothing that was checked before is always allowed, by `Datum.Raw.assembled`. -/
def Possible (held : Holdings) : Operation → Prop
  | .check d => d.Assembled (· ∈ held.allReports)
  | .gather b => b.data.Assembled (· ∈ held.allReports)
  | .build b _ _ => b ∈ held.builders
  | .convert r _ _ | .carry r => r ∈ held.allReports
  | .convertAll rs _ _ | .collect rs => ∀ r ∈ rs, r ∈ held.allReports
  | .convertError e _ _ => e ∈ held.errors
  | .convertCollection c _ _ => c ∈ held.collections
  | .meanwhile _ => True

end Operation

/-- A program at some point of its run. -/
structure Desk where
  session : Session
  held : Holdings

namespace Desk

def perform (desk : Desk) (op : Operation) : Desk :=
  match op.make desk.session with
  | .ok made s => ⟨s, desk.held.add made⟩
  | .error _ s => ⟨s, desk.held⟩

inductive Reachable : Desk → Prop where
  | start (s : Session) : Reachable ⟨s, {}⟩
  | step {desk : Desk} {op : Operation} (h : Reachable desk) (hop : op.Possible desk.held) :
      Reachable (desk.perform op)

end Desk

/-- No operation makes an unsound report or gathers a builder with unsound parts. -/
theorem Operation.make_sound {held made : Holdings} {op : Operation} {s s' : Session}
    (hheld : held.Sound) (hop : op.Possible held) (h : op.make s = .ok made s') : made.Sound := by
  have hknown : ∀ d : Datum, d.Assembled (· ∈ held.allReports) → d.Assembled Report.Sound :=
    fun d hd => hd.mono hheld.reports
  cases op with
  | check d =>
    obtain ⟨r, hr, rfl⟩ := action_map_eq_ok_iff.mp h
    have hvalid := Checked.toExcept_eq_ok.mp (ofExcept_eq_ok_iff.mp hr).1
    exact Holdings.sound_reports
      (List.forall_mem_singleton.mpr (Validation.report_sound (hknown d hop) hvalid))
  | gather b =>
    cases h
    exact Holdings.sound_builder (hknown b.data hop)
  | build b identifier title =>
    obtain ⟨r, hr, rfl⟩ := action_map_eq_ok_iff.mp h
    exact Holdings.sound_reports
      (List.forall_mem_singleton.mpr (Builder.build_sound (hheld.builders b hop) hr))
  | convert r identifier title =>
    obtain ⟨wrapper, hwrapper, rfl⟩ := action_map_eq_ok_iff.mp h
    exact Holdings.sound_reports
      (List.forall_mem_singleton.mpr (Report.convert_sound (hheld.reports r hop) hwrapper))
  | convertAll rs identifier title =>
    obtain ⟨wrappers, hwrappers, rfl⟩ := action_map_eq_ok_iff.mp h
    exact Holdings.sound_reports
      (convertAll_sound (fun r hr => hheld.reports r (hop r hr)) hwrappers)
  | carry r =>
    cases h
    exact Holdings.sound_error (hheld.reports r hop)
  | convertError e identifier title =>
    obtain ⟨e', he', rfl⟩ := action_map_eq_ok_iff.mp h
    obtain ⟨wrapper, hwrapper, rfl⟩ := action_map_eq_ok_iff.mp he'
    exact Holdings.sound_error (Report.convert_sound (hheld.error hop) hwrapper)
  | collect rs =>
    cases h
    exact Holdings.sound_collection fun r hr => hheld.reports r (hop r hr)
  | convertCollection c identifier title =>
    obtain ⟨c', hc', rfl⟩ := action_map_eq_ok_iff.mp h
    obtain ⟨wrappers, hwrappers, rfl⟩ := action_map_eq_ok_iff.mp hc'
    exact Holdings.sound_collection (convertAll_sound (hheld.collection hop) hwrappers)
  | meanwhile s =>
    cases h
    exact Holdings.sound_nothing

/-- An operation that fails leaves the session alone but for what `Session.Kept` leaves out. -/
theorem Operation.kept_of_make_error {op : Operation} {s s' : Session} {fault : Fault}
    (h : op.make s = .error fault s') : s.Kept s' := by
  have hkeeps : ∀ x : Action Holdings, x = op.make → Keeps x → s.Kept s' := by
    rintro x rfl hx
    have hs := hx s
    rwa [Session.after_of_error h] at hs
  cases op with
  | check d => exact hkeeps _ rfl (keeps_bind (keeps_ofExcept _) fun _ => keeps_pure _)
  | build b identifier title =>
    exact hkeeps _ rfl (keeps_bind (b.keeps_build identifier title) fun _ => keeps_pure _)
  | convert r identifier title =>
    exact hkeeps _ rfl (keeps_bind (r.keeps_convert identifier title) fun _ => keeps_pure _)
  | convertAll rs identifier title =>
    exact hkeeps _ rfl (keeps_bind (keeps_convertAll identifier title rs) fun _ => keeps_pure _)
  | convertError e identifier title =>
    exact hkeeps _ rfl (keeps_bind (keeps_bind (e.report.keeps_convert identifier title)
      fun _ => keeps_pure _) fun _ => keeps_pure _)
  | convertCollection c identifier title =>
    exact hkeeps _ rfl (keeps_bind (keeps_bind (keeps_convertAll identifier title c.reports)
      fun _ => keeps_pure _) fun _ => keeps_pure _)
  | gather _ | carry _ | collect _ | meanwhile _ => cases h

namespace Desk

theorem perform_of_error {desk : Desk} {op : Operation} {fault : Fault} {s : Session}
    (h : op.make desk.session = .error fault s) : desk.perform op = ⟨s, desk.held⟩ := by
  unfold perform
  rw [h]

/-- Nothing that is held is lost. -/
theorem exists_held_perform (desk : Desk) (op : Operation) :
    ∃ made, (desk.perform op).held = desk.held.add made := by
  unfold perform
  cases op.make desk.session with
  | ok made s => exact ⟨made, rfl⟩
  | error fault s => exact ⟨{}, by simp [Holdings.add]⟩

theorem perform_sound {desk : Desk} {op : Operation} (h : desk.held.Sound)
    (hop : op.Possible desk.held) : (desk.perform op).held.Sound := by
  unfold perform
  cases hmake : op.make desk.session with
  | ok made s => exact h.add (Operation.make_sound h hop hmake)
  | error fault s => exact h

theorem Reachable.sound {desk : Desk} (h : Reachable desk) : desk.held.Sound := by
  induction h with
  | start s => exact Holdings.sound_nothing
  | step _ hop ih => exact perform_sound ih hop

end Desk

/-- Every report that a program ever holds is sound along its whole chain. An operation that fails
adds nothing and takes nothing away, and it leaves the providers as they were; a code with nothing
in it makes a conversion and a builder fail in this way. -/
theorem reports_wellFormed :
    (∀ desk : Desk, desk.Reachable → ∀ r ∈ desk.held.allReports, ∀ f ∈ r.chain,
      f.identifier ≠ "" ∧ f.title ≠ "" ∧ f.level ∈ Level.all ∧ ∀ e ∈ f.excerpts, e.Sound) ∧
    (∀ (desk : Desk) op fault s, op.make desk.session = .error fault s →
      desk.perform op = ⟨s, desk.held⟩ ∧ desk.session.Kept s) ∧
    ∀ v s s' (resolved : Resolved), Session.identify v s = .ok resolved s' → resolved.code = "" →
      ∀ title, (∀ r, Report.convert v title r s = .error (.missingField .identifier) s') ∧
        ∀ b, Builder.build b (some v) title s = .error (.missingField .identifier) s' := by
  refine ⟨?_, ?_, ?_⟩
  · intro desk hdesk r hr f hf
    have hsound := hdesk.sound.reports r hr f hf
    exact ⟨hsound.identifier_ne, hsound.title_ne, hsound.level_mem, hsound.excerpts⟩
  · intro desk op fault s h
    exact ⟨Desk.perform_of_error h, Operation.kept_of_make_error h⟩
  · intro v s s' resolved h hcode title
    exact ⟨Report.convert_of_empty_code h hcode title, Builder.build_of_empty_code h hcode title⟩

def markedData : Datum :=
  .record [("identifier", .text "E1"), ("title", .text "marked"),
    ("contexts", .list [.record [("lines", .list [.list [.int 1, .text "ab"]]),
      ("highlights", .list [.record [("line", .int 1), ("start", .int 0), ("end", .int 2)]])]])]

def marked : Report :=
  .root ⟨"E1", "marked", .error, none, none, none, none,
    [⟨[⟨1, "ab"⟩], [⟨1, 0, 2, none, .error⟩], none⟩]⟩

/-- A session in which the code of a priority is empty. -/
def unnamedPriorities : Session :=
  { Session.initial with
    registry := Registry.empty.add lowPriority.type (.table [(("Priority", "LOW"), "")] []) }

/-- A report was checked and converted. -/
def convertedOnce : Desk :=
  (Desk.perform ⟨unnamedPriorities, {}⟩ (.check markedData)).perform
    (.convert marked (.plain (.text "E2")) (.text "outer"))

theorem reports_wellFormed_empty_code :
    convertedOnce.held.reports = [marked, .wrapping (.bare "E2" "outer" .error) marked] ∧
    (∀ r ∈ convertedOnce.held.allReports, ∀ f ∈ r.chain,
      f.identifier ≠ "" ∧ f.title ≠ "" ∧ f.level ∈ Level.all ∧ ∀ e ∈ f.excerpts, e.Sound) ∧
    ∃ s, convertedOnce.perform (.convert marked lowPriority (.text "t")) =
      ⟨s, convertedOnce.held⟩ ∧ convertedOnce.session.Kept s := by
  obtain ⟨hsound, hfailed, hempty⟩ := reports_wellFormed
  have hraw : markedData.Raw := by simp [markedData]
  have hchecked : (Desk.perform ⟨unnamedPriorities, {}⟩ (.check markedData)).Reachable :=
    .step (.start _) hraw.assembled
  have hreach : convertedOnce.Reachable := .step hchecked (List.mem_singleton.mpr rfl)
  refine ⟨rfl, hsound _ hreach, ?_⟩
  have hconvert :=
    (hempty lowPriority convertedOnce.session _ ⟨"", none⟩ rfl rfl (.text "t")).1 marked
  exact ⟨_, hfailed convertedOnce (.convert marked lowPriority (.text "t")) _ _
    (Session.bind_of_error hconvert)⟩

end Diagnostics
