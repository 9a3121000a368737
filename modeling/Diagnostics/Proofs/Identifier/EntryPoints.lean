import Diagnostics.Builder
import Diagnostics.Proofs.Identifier.Requests
import Diagnostics.Proofs.Validation.Reports
import Diagnostics.Proofs.Wrapping

/-! # Where identifiers come in

A variant comes in when a builder is started or finished with it and when a report is converted to
it. For a member of an enumeration that is no text, each of these takes the code and the link that
the registry resolves it to, and each refuses it if none of its types has a provider. A member that
is a text is its own code everywhere but in the registry.
-/
namespace Diagnostics
variable {variants : Variant → Prop}

namespace Registry
variable {reg : Registry} {v : Variant}

/-- Every answer that is remembered for a variant has a provider behind it. -/
def Backed (variants : Variant → Prop) (reg : Registry) : Prop :=
  ∀ v key r, variants v → v.key? = some key → reg.remembered.lookup key = some r →
    ∃ p, reg.providerFor v = .ok p

theorem backed_of_remembered_nil (h : reg.remembered = []) : reg.Backed variants := by
  intro v key r _ _ hr
  rw [h] at hr
  cases hr

theorem Backed.learn (h : reg.Backed variants) (ht : TypesApart variants) (hv : variants v)
    {key : VariantKey} {p : Provider} (hkey : v.key? = some key) (hp : reg.providerFor v = .ok p)
    (r : Resolved) (calls : Calls) :
    Backed variants { reg with remembered := reg.remembered.put key r, calls } := by
  intro w other r' hw hother hr'
  by_cases hsame : other = key
  · subst hsame
    exact ⟨p, (providerFor_congr (ht.type_eq hw hv hother hkey)).trans hp⟩
  · refine h w other r' hw hother ?_
    rw [← hr']
    exact (Keyed.lookup_put_of_ne hsame r reg.remembered).symm

/-- A variant without a provider is not remembered, and so it is refused. -/
theorem Backed.resolve_of_none (h : reg.Backed variants) (hv : variants v) {key : VariantKey}
    (hkey : v.key? = some key) (hnone : ∀ id ∈ v.type.lineage, reg.providers.lookup id = none) :
    resolve v reg = .error (.unknownVariant v.type.qualifiedName reg.available) reg := by
  have hrefused := providerFor_of_none hnone
  have hresolution := resolution reg v
  generalize resolve v reg = result at hresolution
  cases hresolution with
  | unhashable hkey' => cases hkey.symm.trans hkey'
  | recalled hkey' hr =>
    obtain ⟨p, hp⟩ := h v _ _ hv hkey' hr
    cases hrefused.symm.trans hp
  | unprovided _ _ hp =>
    cases hrefused.symm.trans hp
    rfl
  | learned _ _ hp | failed _ _ hp => cases hrefused.symm.trans hp

end Registry

namespace Session
open Registry (Request)

theorem serve_backed {s : Session} (h : s.registry.Backed variants) (ht : TypesApart variants)
    {q : Request} (hq : ∀ v, q = .resolve v → variants v) :
    (after (serve q) s).registry.Backed variants := by
  have hservice := service q s
  unfold after
  generalize serve q s = result at hservice
  cases hservice with
  | registered | cleared => exact Registry.backed_of_remembered_nil rfl
  | notRegistered | provided | notProvided | listed => exact h
  | @resolved v r fresh reg journal hr =>
    have hresolution := Registry.resolution s.registry v
    rw [hr] at hresolution
    cases hresolution with
    | recalled => exact h
    | learned hkey _ hp _ => exact h.learn ht (hq v rfl) hkey hp r _
  | @notResolved v fault reg hr =>
    have hresolution := Registry.resolution s.registry v
    rw [hr] at hresolution
    cases hresolution <;> exact h

theorem afterAll_backed {s : Session} (h : s.registry.Backed variants) (ht : TypesApart variants)
    {qs : List Request} (hqs : ∀ v, .resolve v ∈ qs → variants v) :
    (afterAll qs s).registry.Backed variants := by
  induction qs generalizing s with
  | nil => exact h
  | cons q qs ih =>
    refine ih (serve_backed h ht ?_) fun v hv => hqs v (List.mem_cons_of_mem q hv)
    rintro v rfl
    exact hqs v List.mem_cons_self

end Session

namespace Builder

/-- The builder with a resolved identifier, whose link is taken over if there is one. -/
def resolvedTo (b : Builder) (r : Resolved) : Builder :=
  { b with
    identifier := .text r.code
    docUrl := match r.docUrl with
      | some url => .text url
      | none => b.docUrl }

def titledOver (b : Builder) : Datum → Builder
  | .null => b
  | title => b.withTitle title

@[simp] theorem titledOver_identifier (b : Builder) (title : Datum) :
    (b.titledOver title).identifier = b.identifier := by
  cases title <;> rfl

variable {v : Variant} {r : Resolved} {s s' : Session} {fault : Fault}

theorem withIdentifier_of_ok (h : Session.identify v s = .ok r s') (b : Builder) :
    b.withIdentifier v s = .ok (b.resolvedTo r) s' :=
  Session.bind_of_ok h

theorem withIdentifier_of_error (h : Session.identify v s = .error fault s') (b : Builder) :
    b.withIdentifier v s = .error fault s' :=
  Session.bind_of_error h

theorem overridden_some (b : Builder) (v : Variant) (title : Datum) :
    b.overridden (some v) title = b.withIdentifier v >>= fun b => pure (b.titledOver title) := by
  cases title <;> rfl

theorem missingIdentity?_data (b : Builder) :
    ∃ fields, b.data = .record fields ∧ Validation.missingIdentity? fields = b.missing? :=
  ⟨_, rfl, rfl⟩

/-- A builder refuses nothing by itself that the check of its data does not refuse in the same
way. -/
theorem finish_eq_checkReport (b : Builder) : b.finish = Validation.checkReport b.data := by
  obtain ⟨fields, hdata, hmissing⟩ := b.missingIdentity?_data
  unfold finish
  cases hfield : b.missing? with
  | none => rfl
  | some field =>
    rw [hdata, Validation.checkReport_of_missingIdentity? (hmissing.trans hfield)]

theorem build_of_ok (h : Session.identify v s = .ok r s') (b : Builder) (title : Datum) :
    b.build (some v) title s =
      Session.ofExcept (Validation.checkReport ((b.resolvedTo r).titledOver title).data) s' := by
  have hover : b.overridden (some v) title s = .ok ((b.resolvedTo r).titledOver title) s' := by
    rw [overridden_some, Session.bind_of_ok (withIdentifier_of_ok h b)]
    rfl
  unfold build
  rw [Session.bind_of_ok hover, finish_eq_checkReport]

theorem build_of_error (h : Session.identify v s = .error fault s') (b : Builder) (title : Datum) :
    b.build (some v) title s = .error fault s' :=
  Session.bind_of_error (Session.bind_of_error (withIdentifier_of_error h b))

theorem identifier_of_checkReport {b : Builder} {report : Report}
    (h : Validation.checkReport b.data = .ok report) :
    b.identifier = .text report.identifier := by
  obtain ⟨-, f, c, hf, -, rfl⟩ :=
    Validation.report_record_eq_valid.mp (Checked.toExcept_eq_ok.mp h)
  have hidentifier :=
    Validation.lookup_of_required_text (Validation.finding_eq_valid.mp hf).identifier
  rw [Report.identifier, Report.finding_make]
  exact Option.some.inj hidentifier

/-- What a builder gathered is, field by field, what a finding says. -/
structure Holds (b : Builder) (f : Finding) : Prop where
  identifier : b.identifier = .text f.identifier
  title : b.title = .text f.title
  level : Validation.level b.level = .valid f.level
  message : Validation.textOrNull b.message = .valid f.message
  help : Validation.textOrNull b.help = .valid f.help
  docUrl : Validation.textOrNull b.docUrl = .valid f.docUrl
  site : Validation.siteOrNull b.site = .valid f.site
  excerpts : Validation.sequence Validation.excerpt (.list b.excerpts) = .valid f.excerpts

theorem Holds.checkReport {b : Builder} {f : Finding} (h : b.Holds f) (hcode : f.identifier ≠ "")
    (htitle : f.title ≠ "") : Validation.checkReport b.data = .ok (.root f) := by
  have hidentity : b.missing? = none := by
    simp [missing?, h.identifier, h.title, Datum.isGiven, hcode, htitle]
  obtain ⟨fields, hdata, hmissing⟩ := b.missingIdentity?_data
  obtain rfl : fields = _ := (Datum.record.inj hdata).symm
  refine Checked.toExcept_eq_ok.mpr
    (Validation.report_record_eq_valid.mpr ⟨hmissing.trans hidentity, f, none, ?_, rfl, rfl⟩)
  exact Validation.finding_eq_valid.mpr
    ⟨Validation.required_of_lookup rfl (Validation.text_eq_valid.mpr h.identifier),
      Validation.required_of_lookup rfl (Validation.text_eq_valid.mpr h.title),
      Validation.optional_of_lookup rfl h.level, Validation.optional_of_lookup rfl h.message,
      Validation.optional_of_lookup rfl h.help, Validation.optional_of_lookup rfl h.docUrl,
      Validation.optional_of_lookup rfl h.site, Validation.optional_of_lookup rfl h.excerpts⟩

theorem checkReport_titled {code title : String} (hcode : code ≠ "") (htitle : title ≠ "")
    (url : Option String) :
    Validation.checkReport
        (data { identifier := .text code, title := .text title, docUrl := .ofOption url }) =
      .ok (.root ⟨code, title, .error, none, none, url, none, []⟩) := by
  have hurl : Validation.textOrNull (.ofOption url) = .valid url :=
    Validation.textOrNull_ofOption url
  exact Holds.checkReport ⟨rfl, rfl, rfl, rfl, rfl, hurl, rfl, rfl⟩ hcode htitle

end Builder

namespace Report
variable {v : Variant} {resolved : Resolved} {s s' : Session} {r : Report}

/-- Converting changes of the session what identifying does, and the journal. -/
theorem exists_journal_convert (h : Session.identify v s = .ok resolved s') {title : Datum}
    {wrapper : Report} (hwrap : r.wrap resolved.code title = .ok wrapper) :
    ∃ journal, r.convert v title s = .ok wrapper { s' with journal } := by
  have hwrapped : Session.ofExcept (r.wrap resolved.code title) s' = .ok wrapper s' :=
    ofExcept_eq_ok_iff.mpr ⟨hwrap, rfl⟩
  unfold convert
  rw [Session.bind_of_ok h, Session.bind_of_ok hwrapped]
  exact ⟨_, rfl⟩

theorem convert_of_ok (h : Session.identify v s = .ok resolved s') {title : Datum}
    {wrapper : Report} (hwrap : r.wrap resolved.code title = .ok wrapper) :
    ∃ s'', r.convert v title s = .ok wrapper s'' := by
  obtain ⟨journal, hok⟩ := exists_journal_convert h hwrap
  exact ⟨_, hok⟩

theorem convert_of_error {fault : Fault} (h : Session.identify v s = .error fault s')
    (title : Datum) : r.convert v title s = .error fault s' :=
  Session.bind_of_error h

theorem convert_of_wrap_error {fault : Fault} {title : Datum}
    (h : Session.identify v s = .ok resolved s') (hwrap : r.wrap resolved.code title = .error fault) :
    r.convert v title s = .error fault s' := by
  unfold convert
  rw [Session.bind_of_ok h, hwrap]
  rfl

theorem identifier_of_convert (h : Session.identify v s = .ok resolved s') {title : Datum}
    {wrapper : Report} {s'' : Session} (hconvert : r.convert v title s = .ok wrapper s'') :
    wrapper.identifier = resolved.code := by
  obtain ⟨resolved', t, hidentify, hwrap⟩ := wrap_of_convert hconvert
  cases h.symm.trans hidentify
  obtain ⟨text, -, -, -, rfl⟩ := wrap_eq_ok_iff.mp hwrap
  rfl

end Report

open Session (outcome identify resolve) in
/-- In a session, a variant means to all entry points what the registry resolves it to. -/
structure FollowsRegistry (v : Variant) (s : Session) : Prop where
  started : ∀ title, outcome (Builder.forVariant v title) s = (outcome (resolve v) s).map
    fun r => { identifier := .text r.code, title, docUrl := .ofOption r.docUrl }
  converted : ∀ r, outcome (resolve v) s = .ok r → ∀ title original wrapper,
    outcome (Report.convert v title original) s = .ok wrapper → wrapper.identifier = r.code
  built : ∀ r, outcome (resolve v) s = .ok r → ∀ b title report,
    outcome (Builder.build b (some v) title) s = .ok report → report.identifier = r.code
  succeeds : ∀ r, outcome (resolve v) s = .ok r → r.code ≠ "" → ∀ title, title ≠ "" →
    (∀ original, outcome (Report.convert v (.text title) original) s =
      .ok (.wrapping (.bare r.code title original.level) original)) ∧
    outcome (Builder.build {} (some v) (.text title)) s =
      .ok (.root ⟨r.code, title, .error, none, none, r.docUrl, none, []⟩)
  refused : ∀ fault, outcome (resolve v) s = .error fault → ∀ title,
    (∀ original, outcome (Report.convert v title original) s = .error fault) ∧
    ∀ b, outcome (Builder.build b (some v) title) s = .error fault

namespace FollowsRegistry
open Session (outcome outcome_of_ok outcome_of_error identify resolve)
variable {v : Variant} {s s' : Session}

theorem of_identify_ok {r : Resolved} (h : identify v s = .ok r s')
    (hr : outcome (resolve v) s = .ok r) : FollowsRegistry v s := by
  constructor
  · intro title
    rw [hr, Builder.forVariant, outcome_of_ok (Builder.withIdentifier_of_ok h _)]
    cases hurl : r.docUrl <;>
      simp [Builder.resolvedTo, Builder.withTitle, Datum.ofOption, hurl, Except.map]
  · intro r' hr' title original wrapper hconvert
    cases hr.symm.trans hr'
    obtain ⟨s'', hconvert⟩ := Session.eq_ok_of_outcome hconvert
    exact Report.identifier_of_convert h hconvert
  · intro r' hr' b title report hbuild
    cases hr.symm.trans hr'
    obtain ⟨s'', hbuild⟩ := Session.eq_ok_of_outcome hbuild
    rw [Builder.build_of_ok h] at hbuild
    have hreport := Builder.identifier_of_checkReport (ofExcept_eq_ok_iff.mp hbuild).1
    rw [Builder.titledOver_identifier] at hreport
    exact (Datum.text.inj hreport).symm
  · intro r' hr' hcode title htitle
    cases hr.symm.trans hr'
    constructor
    · intro original
      obtain ⟨s'', hconvert⟩ := Report.convert_of_ok h
        (Report.wrap_eq_ok_iff.mpr ⟨title, hcode, htitle, rfl, rfl⟩)
      exact outcome_of_ok hconvert
    · have hdata : ((Builder.resolvedTo {} r).titledOver (.text title)).data = Builder.data
          { identifier := .text r.code, title := .text title, docUrl := .ofOption r.docUrl } := by
        cases hurl : r.docUrl <;>
          simp [Builder.resolvedTo, Builder.titledOver, Builder.withTitle, Datum.ofOption, hurl]
      have hbuild := Builder.build_of_ok h {} (.text title)
      rw [hdata, Builder.checkReport_titled hcode htitle] at hbuild
      exact outcome_of_ok hbuild
  · intro fault hfault
    cases hr.symm.trans hfault

theorem of_identify_error {fault : Fault} (h : identify v s = .error fault s')
    (hfault : outcome (resolve v) s = .error fault) : FollowsRegistry v s := by
  have hnone : ∀ r, outcome (resolve v) s ≠ .ok r := by
    intro r hr
    cases hfault.symm.trans hr
  refine ⟨?_, fun r hr => absurd hr (hnone r), fun r hr => absurd hr (hnone r),
    fun r hr => absurd hr (hnone r), ?_⟩
  · intro title
    rw [hfault]
    exact outcome_of_error (Builder.withIdentifier_of_error h _)
  · intro fault' hfault' title
    cases hfault.symm.trans hfault'
    exact ⟨fun original => outcome_of_error (Report.convert_of_error h title),
      fun b => outcome_of_error (Builder.build_of_error h b title)⟩

/-- All entry points take the identifier that is meant, so it is enough that this is what the
registry gives. -/
theorem of_outcome_eq (h : outcome (identify v) s = outcome (resolve v) s) :
    FollowsRegistry v s := by
  cases hidentify : identify v s with
  | ok r s' => exact of_identify_ok hidentify (h.symm.trans (outcome_of_ok hidentify))
  | error fault s' => exact of_identify_error hidentify (h.symm.trans (outcome_of_error hidentify))

end FollowsRegistry

open Session (outcome identify resolve)

theorem identify_of_text {v : Variant} {code : String} (h : v.text? = some code) (s : Session) :
    identify v s = .ok ⟨code, none⟩ s := by
  unfold identify
  rw [h]
  rfl

theorem identify_of_no_text {v : Variant} (h : v.text? = none) (s : Session) :
    identify v s = resolve v s := by
  unfold identify
  rw [h]

theorem outcome_of_started {v : Variant} {s : Session} {code : String} (htext : v.text? = some code)
    (h : FollowsRegistry v s) : outcome (resolve v) s = .ok ⟨code, none⟩ := by
  have hstarted := h.started .null
  rw [Builder.forVariant, Session.outcome_of_ok
    (Builder.withIdentifier_of_ok (identify_of_text htext s) _)] at hstarted
  cases hr : outcome (resolve v) s with
  | error fault =>
    rw [hr] at hstarted
    cases hstarted
  | ok r =>
    rw [hr] at hstarted
    obtain ⟨code', url⟩ := r
    cases url <;> simp_all [Builder.resolvedTo, Builder.withTitle, Except.map, Datum.ofOption]

/-- A variant means to all entry points what the registry resolves it to exactly if it is no text,
or is a text that the registry resolves to just this text and no link. If none of its types has a
provider, the registry refuses it, whatever happened before. -/
theorem entryPoints_agree (v : Variant) :
    (∀ s, FollowsRegistry v s ↔ v.text? = none ∨
      ∃ code, v.text? = some code ∧ outcome (resolve v) s = .ok ⟨code, none⟩) ∧
    ∀ (variants : Variant → Prop) (qs : List Registry.Request) (s : Session),
      TypesApart variants → s.registry.Blank → (∀ w, .resolve w ∈ qs → variants w) →
      variants v → v.key? ≠ none →
      (∀ id ∈ v.type.lineage, (Session.afterAll qs s).registry.providers.lookup id = none) →
      outcome (resolve v) (Session.afterAll qs s) = .error (.unknownVariant v.type.qualifiedName
        (Session.afterAll qs s).registry.available) := by
  constructor
  · intro s
    constructor
    · intro h
      cases htext : v.text? with
      | none => exact Or.inl rfl
      | some code => exact Or.inr ⟨code, rfl, outcome_of_started htext h⟩
    · rintro (htext | ⟨code, htext, hresolve⟩)
      · refine .of_outcome_eq ?_
        unfold outcome
        rw [identify_of_no_text htext]
      · refine .of_outcome_eq ?_
        rw [hresolve, Session.outcome_of_ok (identify_of_text htext s)]
  · intro variants qs s ht hblank hqs hv hkey hnone
    obtain ⟨key, hkey⟩ := Option.ne_none_iff_exists'.mp hkey
    have hbacked : s.registry.Backed variants :=
      Registry.backed_of_remembered_nil hblank.remembered
    exact Session.outcome_of_error (Session.resolve_of_error
      ((Session.afterAll_backed hbacked ht hqs).resolve_of_none hv hkey hnone))

def lowPriority : Variant := .member ⟨8, "Priority", "Priority", "m", [2, 0], true⟩ "LOW" (.int 1)

theorem entryPoints_agree_integer_member :
    FollowsRegistry lowPriority (Session.afterAll [.register lowPriority.type none]
      Session.initial) ∧
    outcome (resolve lowPriority) (Session.afterAll [.register lowPriority.type none,
        .resolve lowPriority, .reset] Session.initial) =
      .error (.unknownVariant "Priority" []) := by
  obtain ⟨hfollows, hrefused⟩ := entryPoints_agree lowPriority
  refine ⟨(hfollows _).mpr (Or.inl (by decide)), ?_⟩
  have happart : TypesApart fun v => v = lowPriority := by
    rintro v w rfl rfl -
    rfl
  have hresolve := hrefused _ [.register lowPriority.type none, .resolve lowPriority, .reset]
    Session.initial happart ⟨rfl, rfl⟩ (by simp) rfl (by decide) (fun id _ => rfl)
  have havailable : (Session.afterAll [.register lowPriority.type none, .resolve lowPriority,
      .reset] Session.initial).registry.available = [] := by
    have hproviders : (Session.afterAll [.register lowPriority.type none, .resolve lowPriority,
        .reset] Session.initial).registry.providers = [] := rfl
    rw [Registry.available, hproviders]
    simp [sortedNames]
  rw [havailable] at hresolve
  exact hresolve

/-- A member of an enumeration of texts. -/
def textRed : Variant := .member ⟨8, "Color", "Color", "m", [1, 0], true⟩ "RED" (.text "red")

def redCodes : Provider :=
  .table [(("Color", "RED"), "C100")] [(("Color", "RED"), "https://example.org/C100")]

/-- A member that is a text loses the code and the link that its provider gives, and without a
provider it is not refused. -/
theorem textMember_bypasses_registry :
    ¬ FollowsRegistry textRed
        (Session.afterAll [.register textRed.type (some redCodes)] Session.initial) ∧
      ¬ FollowsRegistry textRed Session.initial := by
  have htext : textRed.text? = some "red" := by decide
  constructor
  · intro h
    have hresolve := outcome_of_started htext h
    have hlisted : outcome (resolve textRed) (Session.afterAll
        [.register textRed.type (some redCodes)] Session.initial) =
          .ok ⟨"C100", some "https://example.org/C100"⟩ := rfl
    simpa using hlisted.symm.trans hresolve
  · intro h
    have hresolve := outcome_of_started htext h
    have hbacked : Session.initial.registry.Backed fun _ => True :=
      Registry.backed_of_remembered_nil rfl
    have hrefused := Session.outcome_of_error (Session.resolve_of_error
      (hbacked.resolve_of_none (v := textRed) trivial rfl fun id _ => rfl))
    cases hrefused.symm.trans hresolve

end Diagnostics
