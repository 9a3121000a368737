import Diagnostics.Proofs.Report.Runs

/-! # Conversions one after the other

Each conversion puts one wrapper in front of the chain and leaves the rest of it alone, so a chain
can be read off the steps that made it. Whether a step succeeds depends on the providers and on what
is remembered of resolutions, and of these a conversion changes what resolving its identifier does,
however many reports are converted by it.
-/
namespace Diagnostics

namespace Report

/-- A report under some more codes and titles, the last ones outermost. -/
def wrapped (r : Report) (names : List (String × String)) : Report :=
  names.foldl (fun r name => .wrapping (.bare name.1 name.2 r.level) r) r

@[simp] theorem wrapped_nil (r : Report) : r.wrapped [] = r := rfl

@[simp] theorem wrapped_cons (r : Report) (name : String × String) (names : List (String × String)) :
    r.wrapped (name :: names) = (wrapping (.bare name.1 name.2 r.level) r).wrapped names := rfl

theorem causes_ne_nil (r : Report) : r.causes ≠ [] := by
  cases r <;> exact List.cons_ne_nil _ _

@[simp] theorem rootCause_wrapping (f : Finding) (cause : Report) :
    (wrapping f cause).rootCause = cause.rootCause := by
  have hne := cause.causes_ne_nil
  simp [rootCause, causes, List.getLastD_eq_getLast?, List.getLast?_cons,
    List.getLast?_eq_some_getLast hne]

theorem rootCause_wrapped (r : Report) (names : List (String × String)) :
    (r.wrapped names).rootCause = r.rootCause := by
  induction names generalizing r with
  | nil => rfl
  | cons name names ih => rw [wrapped_cons, ih, rootCause_wrapping]

theorem depth_wrapped (r : Report) (names : List (String × String)) :
    (r.wrapped names).depth = r.depth + names.length := by
  induction names generalizing r with
  | nil => rfl
  | cons name names ih =>
    rw [wrapped_cons, ih, depth, List.length_cons]
    omega

/-- The wrappers stand in front of the chain, the newest one first, all with the level of the
report. -/
theorem causes_wrapped (r : Report) (names : List (String × String)) :
    ∃ wrappers, (r.wrapped names).causes = wrappers ++ r.causes ∧
      wrappers.map finding = names.reverse.map fun name => .bare name.1 name.2 r.level := by
  induction names generalizing r with
  | nil => exact ⟨[], rfl, rfl⟩
  | cons name names ih =>
    let inner : Report := .wrapping (.bare name.1 name.2 r.level) r
    obtain ⟨wrappers, hcauses, hfindings⟩ := ih inner
    refine ⟨wrappers ++ [inner], ?_, ?_⟩
    · rw [wrapped_cons, hcauses, List.append_assoc]
      rfl
    · rw [List.map_append, hfindings, List.reverse_cons, List.map_append]
      rfl

end Report

namespace Registry
variable {reg reg' : Registry} {v : Variant} {resolved : Resolved} {fresh : Bool}

theorem resolve_again (h : resolve v reg = .ok (resolved, fresh) reg') :
    resolve v reg' = .ok (resolved, false) reg' := by
  have hresolution := resolution reg v
  rw [h] at hresolution
  cases hresolution with
  | recalled hkey hr => exact resolve_of_lookup hkey hr
  | learned hkey _ _ _ => exact resolve_of_lookup hkey (Keyed.lookup_put_self _ _ _)

/-- What an identifier means with a registry, and the registry after that. -/
inductive Identified (v : Variant) (reg : Registry) : Resolved → Registry → Prop where
  | text {code : String} (htext : v.text? = some code) : Identified v reg ⟨code, none⟩ reg
  | resolved {resolved : Resolved} {fresh : Bool} {reg' : Registry} (htext : v.text? = none)
      (h : resolve v reg = .ok (resolved, fresh) reg') : Identified v reg resolved reg'

theorem Identified.again (h : Identified v reg resolved reg') :
    Identified v reg' resolved reg' := by
  cases h with
  | text htext => exact .text htext
  | resolved htext h => exact .resolved htext (resolve_again h)

end Registry

namespace Session
variable {v : Variant} {resolved : Resolved} {reg : Registry} {s s' t : Session}

theorem identified_of_identify (h : identify v s = .ok resolved s') :
    Registry.Identified v s.registry resolved s'.registry := by
  cases htext : v.text? with
  | some code =>
    rw [identify_of_text htext] at h
    cases h
    exact .text htext
  | none =>
    rw [identify_of_no_text htext] at h
    cases hreg : Registry.resolve v s.registry with
    | ok answer reg =>
      obtain ⟨journal, hs⟩ := resolve_of_ok hreg
      cases hs.symm.trans h
      exact .resolved htext hreg
    | error fault reg => cases (resolve_of_error hreg).symm.trans h

theorem identify_of_identified (h : Registry.Identified v s.registry resolved reg) :
    ∃ s', identify v s = .ok resolved s' ∧ s'.registry = reg := by
  cases h with
  | text htext => exact ⟨s, identify_of_text htext s, rfl⟩
  | resolved htext h =>
    obtain ⟨journal, hs⟩ := resolve_of_ok h
    exact ⟨_, (identify_of_no_text htext s).trans hs, rfl⟩

theorem identify_congr (hsame : t.registry = s.registry) (h : identify v s = .ok resolved s') :
    ∃ t', identify v t = .ok resolved t' ∧ t'.registry = s'.registry :=
  identify_of_identified (hsame ▸ identified_of_identify h)

/-- Where an identifier was resolved, it means the same again, and nothing more is remembered. -/
theorem identify_again (h : identify v s = .ok resolved s') (hsame : t.registry = s'.registry) :
    ∃ t', identify v t = .ok resolved t' ∧ t'.registry = s'.registry :=
  identify_of_identified (hsame ▸ (identified_of_identify h).again)

/-- The steps can be done in a session: their identifiers resolve in turn to codes, and these and the
titles have something in them. -/
inductive Names : Session → List (Variant × Datum) → List (String × String) → Prop where
  | nil (s : Session) : Names s [] []
  | cons {s s' : Session} {v : Variant} {code title : String} {docUrl : Option String}
      {steps : List (Variant × Datum)} {names : List (String × String)}
      (hidentify : identify v s = .ok ⟨code, docUrl⟩ s') (hcode : code ≠ "") (htitle : title ≠ "")
      (hrest : Names s' steps names) :
      Names s ((v, .text title) :: steps) ((code, title) :: names)

namespace Names
variable {steps : List (Variant × Datum)} {names : List (String × String)}

theorem congr (h : Names s steps names) (hsame : t.registry = s.registry) :
    Names t steps names := by
  induction h generalizing t with
  | nil s => exact .nil t
  | cons hidentify hcode htitle _ ih =>
    obtain ⟨t', ht, hsame'⟩ := identify_congr hsame hidentify
    exact .cons ht hcode htitle (ih hsame')

theorem length_eq (h : Names s steps names) : names.length = steps.length := by
  induction h with
  | nil s => rfl
  | cons _ _ _ _ ih => rw [List.length_cons, List.length_cons, ih]

theorem take (h : Names s steps names) (k : Nat) : Names s (steps.take k) (names.take k) := by
  induction h generalizing k with
  | nil s => simpa using Names.nil s
  | cons hidentify hcode htitle _ ih =>
    cases k with
    | zero => exact .nil _
    | succ k => exact .cons hidentify hcode htitle (ih k)

end Names

end Session

open Session (Names outcome identify outcome_of_ok)

/-- Conversions one after the other, each of what the one before made. -/
def inTurn {α : Type} (convert : Variant → Datum → α → Action α) (steps : List (Variant × Datum))
    (a : α) : Action α :=
  steps.foldlM (fun a step => convert step.1 step.2 a) a

section InTurn
variable {v : Variant} {resolved : Resolved} {title : String} {s s' t : Session}
  {steps : List (Variant × Datum)} {names : List (String × String)}

theorem inTurn_cons {α : Type} (convert : Variant → Datum → α → Action α) (step : Variant × Datum)
    (steps : List (Variant × Datum)) (a : α) :
    inTurn convert (step :: steps) a = convert step.1 step.2 a >>= inTurn convert steps :=
  List.foldlM_cons

theorem Report.convert_of_identify (h : identify v s = .ok resolved s') (hcode : resolved.code ≠ "")
    (htitle : title ≠ "") (r : Report) :
    ∃ t, r.convert v (.text title) s = .ok (.wrapping (.bare resolved.code title r.level) r) t ∧
      t.registry = s'.registry := by
  obtain ⟨journal, hok⟩ := Report.exists_journal_convert h
    (Report.wrap_eq_ok_iff.mpr ⟨title, hcode, htitle, rfl, rfl⟩)
  exact ⟨_, hok, rfl⟩

/-- Conversions of a report succeed exactly if the steps can be done in turn. -/
theorem inTurn_convert_eq_ok_iff {r w : Report} :
    outcome (inTurn Report.convert steps r) s = .ok w ↔
      ∃ names, Names s steps names ∧ w = r.wrapped names := by
  induction steps generalizing r s with
  | nil =>
    constructor
    · intro h
      cases h
      exact ⟨[], .nil s, rfl⟩
    · rintro ⟨names, ⟨⟩, rfl⟩
      rfl
  | cons step steps ih =>
    rw [inTurn_cons]
    constructor
    · intro h
      obtain ⟨s', h⟩ := Session.eq_ok_of_outcome h
      obtain ⟨inner, t, hinner, hrest⟩ := action_bind_eq_ok_iff.mp h
      obtain ⟨resolved, u, hidentify, hwrap⟩ := Report.wrap_of_convert hinner
      obtain ⟨title, hcode, htitle, htext, rfl⟩ := Report.wrap_eq_ok_iff.mp hwrap
      obtain ⟨journal, hok⟩ := Report.exists_journal_convert hidentify hwrap
      cases hok.symm.trans hinner
      obtain ⟨names, hnames, rfl⟩ := ih.mp (outcome_of_ok hrest)
      obtain ⟨v, _⟩ := step
      cases htext
      exact ⟨_, .cons hidentify hcode htitle (hnames.congr rfl), rfl⟩
    · rintro ⟨_, hnames, rfl⟩
      cases hnames with
      | cons hidentify hcode htitle hrest =>
        obtain ⟨t, hok, hsame⟩ := r.convert_of_identify hidentify hcode htitle
        rw [Session.outcome_bind_of_ok hok]
        exact ih.mpr ⟨_, hrest.congr hsame, rfl⟩

theorem inTurn_convert_error (steps : List (Variant × Datum)) (e : ReportedError) :
    inTurn ReportedError.convert steps e = ReportedError.mk <$> inTurn Report.convert steps e.report := by
  induction steps generalizing e with
  | nil => rfl
  | cons step steps ih =>
    rw [inTurn_cons, inTurn_cons, map_bind, ReportedError.convert, bind_assoc]
    congr 1
    funext r
    rw [pure_bind, ih]

/-- The identifier is resolved for each report, and from the second one on in the way in which it was
resolved for the first one. -/
theorem convertAll_of_identify (h : identify v s = .ok resolved s') (hcode : resolved.code ≠ "")
    (htitle : title ≠ "") (rs : List Report) :
    ∃ t, convertAll v (.text title) rs s =
        .ok (rs.map fun r => .wrapping (.bare resolved.code title r.level) r) t ∧
      (rs = [] ∧ t = s ∨ t.registry = s'.registry) := by
  induction rs generalizing s s' with
  | nil => exact ⟨s, rfl, .inl ⟨rfl, rfl⟩⟩
  | cons r rs ih =>
    obtain ⟨t, hok, ht⟩ := r.convert_of_identify h hcode htitle
    obtain ⟨u, hagain, hu⟩ := Session.identify_again h ht
    obtain ⟨t', hrest, ht'⟩ := ih hagain
    have hlast : t'.registry = s'.registry := by
      rcases ht' with ⟨-, rfl⟩ | ht'
      · exact ht
      · exact ht'.trans hu
    refine ⟨t', ?_, .inr hlast⟩
    unfold convertAll
    rw [Session.bind_of_ok hok, Session.bind_of_ok hrest]
    rfl

theorem convertAll_of_error {fault : Fault} {title : Datum} {rs : List Report} (hne : rs ≠ [])
    (h : ∀ r : Report, r.convert v title s = .error fault s') :
    convertAll v title rs s = .error fault s' := by
  obtain ⟨r, rs, rfl⟩ := List.exists_cons_of_ne_nil hne
  exact Session.bind_of_error (h r)

theorem Report.convert_of_missing_title {title : Datum} (h : identify v s = .ok resolved s')
    (hcode : resolved.code ≠ "") (htitle : title.isGiven = false) (r : Report) :
    r.convert v title s = .error (.missingField .title) s' := by
  have hmissing : Validation.missingIdentity? (r.wrapFields resolved.code title) = some .title := by
    simp [Report.wrapFields, Validation.missingIdentity?, Validation.hasField, List.lookup_cons,
      Validation.isGiven_text, hcode, htitle]
  exact convert_of_wrap_error h (Validation.checkReport_of_missingIdentity? hmissing)

theorem inTurn_convert_empty (steps : List (Variant × Datum)) (s : Session) :
    inTurn Collection.convert steps ⟨[]⟩ s = .ok ⟨[]⟩ s := by
  induction steps with
  | nil => rfl
  | cons step steps ih =>
    rw [inTurn_cons]
    exact ih

/-- Collections are converted report by report where the steps can be done in turn. -/
theorem inTurn_convert_collection (h : Names s steps names) (c : Collection) :
    outcome (inTurn Collection.convert steps c) s = .ok ⟨c.reports.map (·.wrapped names)⟩ := by
  by_cases hempty : c.reports = []
  · obtain ⟨rs⟩ := c
    subst hempty
    exact outcome_of_ok (inTurn_convert_empty steps s)
  · induction steps generalizing names s c with
    | nil =>
      cases h
      simp [inTurn, outcome, pure, EStateM.pure]
    | cons step steps ih =>
      cases h with
      | @cons _ s' v code title _ _ names hidentify hcode htitle hrest =>
        obtain ⟨t, hok, ht⟩ := convertAll_of_identify hidentify hcode htitle c.reports
        have hsame : t.registry = s'.registry := ht.resolve_left fun h => hempty h.1
        let converted : Collection :=
          ⟨c.reports.map fun r => .wrapping (.bare code title r.level) r⟩
        have hconvert : c.convert v (.text title) s = .ok converted t := Session.bind_of_ok hok
        rw [inTurn_cons, Session.outcome_bind_of_ok hconvert,
          ih (hrest.congr hsame) converted (by simpa [converted] using hempty)]
        simp [converted]

end InTurn

/-- Where the identifiers of some steps resolve in turn and all codes and titles have something in
them, each step succeeds, and no conversions succeed otherwise. They put their wrappers in front of
the chain, the newest one first, with the level of the report and nothing else but code and title,
and they keep its root cause. Errors and collections are converted as the reports that they carry,
and a collection that is converted is kept. Many reports are converted together or not at all, and
no reports by any identifier and title. -/
theorem conversions_in_turn :
    (∀ s steps names (r : Report), Names s steps names → ∀ k ≤ steps.length,
      outcome (inTurn Report.convert (steps.take k) r) s = .ok (r.wrapped (names.take k)) ∧
      (∃ wrappers, (r.wrapped (names.take k)).causes = wrappers ++ r.causes ∧
        wrappers.map Report.finding =
          (names.take k).reverse.map fun name => .bare name.1 name.2 r.level) ∧
      (r.wrapped (names.take k)).depth = r.depth + k ∧
      (r.wrapped (names.take k)).causes.length = (r.wrapped (names.take k)).depth + 1 ∧
      (r.wrapped (names.take k)).rootCause = r.rootCause) ∧
    (∀ s steps (r wrapper : Report), outcome (inTurn Report.convert steps r) s = .ok wrapper ↔
      ∃ names, Names s steps names ∧ wrapper = r.wrapped names) ∧
    (∀ steps e, inTurn ReportedError.convert steps e =
      ReportedError.mk <$> inTurn Report.convert steps e.report) ∧
    (∀ s steps names (c : Collection), Names s steps names →
      outcome (inTurn Collection.convert steps c) s = .ok ⟨c.reports.map (·.wrapped names)⟩) ∧
    (∀ (desk : Desk) c v title, c ∈ desk.held.collections →
      c ∈ (desk.perform (.convertCollection c v title)).held.collections) ∧
    (∀ v title s, convertAll v title [] s = .ok [] s) ∧
    ∀ v s rs, rs ≠ [] →
      (∀ fault s', identify v s = .error fault s' →
        ∀ title, convertAll v title rs s = .error fault s') ∧
      ∀ resolved s', identify v s = .ok resolved s' →
        (resolved.code = "" →
          ∀ title, convertAll v title rs s = .error (.missingField .identifier) s') ∧
        (resolved.code ≠ "" → ∀ title, title.isGiven = false →
          convertAll v title rs s = .error (.missingField .title) s') ∧
        (resolved.code ≠ "" → ∀ title, title ≠ "" →
          outcome (convertAll v (.text title) rs) s =
            .ok (rs.map (·.wrapped [(resolved.code, title)]))) := by
  refine ⟨?_, fun s steps r wrapper => inTurn_convert_eq_ok_iff, inTurn_convert_error,
    fun s steps names c h => inTurn_convert_collection h c, ?_, fun v title s => rfl, ?_⟩
  · intro s steps names r h k hk
    have hlength : (names.take k).length = k := by
      rw [List.length_take, h.length_eq]
      omega
    refine ⟨inTurn_convert_eq_ok_iff.mpr ⟨_, h.take k, rfl⟩, r.causes_wrapped _, ?_,
      Report.length_causes _, r.rootCause_wrapped _⟩
    rw [Report.depth_wrapped, hlength]
  · intro desk c v title hc
    obtain ⟨made, hheld⟩ := desk.exists_held_perform (.convertCollection c v title)
    rw [hheld]
    exact List.mem_append_left _ hc
  · intro v s rs hne
    constructor
    · intro fault s' h title
      exact convertAll_of_error hne fun r => Report.convert_of_error h title
    · intro resolved s' h
      refine ⟨?_, ?_, ?_⟩
      · intro hcode title
        exact convertAll_of_error hne fun r => Report.convert_of_empty_code h hcode title r
      · intro hcode title htitle
        exact convertAll_of_error hne fun r => r.convert_of_missing_title h hcode htitle
      · intro hcode title htitle
        obtain ⟨t, hok, -⟩ := convertAll_of_identify h hcode htitle rs
        exact outcome_of_ok hok

/-- A provider that would answer otherwise if it were asked again. -/
def countedPriorities : Session :=
  { Session.initial with
    registry := Registry.empty.add lowPriority.type
      (.custom 0 "Counting" fun n _ => .ok ⟨if n = 1 then "C1" else "C2", none⟩) }

def mixedSteps : List (Variant × Datum) :=
  [(lowPriority, .text "a"), (.plain (.text "E2"), .text "b"), (lowPriority, .text "c")]

theorem conversions_in_turn_counted :
    Names countedPriorities mixedSteps [("C1", "a"), ("E2", "b"), ("C1", "c")] ∧
    outcome (inTurn Report.convert mixedSteps marked) countedPriorities =
      .ok (.wrapping (.bare "C1" "c" .error) (.wrapping (.bare "E2" "b" .error)
        (.wrapping (.bare "C1" "a" .error) marked))) ∧
    outcome (inTurn Collection.convert mixedSteps ⟨[marked, .root (.bare "W" "w" .warning)]⟩)
        countedPriorities =
      .ok ⟨[marked.wrapped [("C1", "a"), ("E2", "b"), ("C1", "c")],
        .wrapping (.bare "C1" "c" .warning) (.wrapping (.bare "E2" "b" .warning)
          (.wrapping (.bare "C1" "a" .warning) (.root (.bare "W" "w" .warning))))]⟩ ∧
    ∃ s, convertAll lowPriority (.text "") [marked, marked] countedPriorities =
      .error (.missingField .title) s := by
  obtain ⟨hreport, -, -, hcollection, -, -, hall⟩ := conversions_in_turn
  have hnames : Names countedPriorities mixedSteps [("C1", "a"), ("E2", "b"), ("C1", "c")] :=
    .cons rfl (by decide) (by decide) (.cons rfl (by decide) (by decide)
      (.cons rfl (by decide) (by decide) (.nil _)))
  refine ⟨hnames, (hreport _ _ _ marked hnames 3 (Nat.le_refl 3)).1, hcollection _ _ _ _ hnames, ?_⟩
  obtain ⟨-, hresolved⟩ := hall lowPriority countedPriorities [marked, marked] (by decide)
  exact ⟨_, (hresolved ⟨"C1", none⟩ _ rfl).2.1 (by decide) (.text "") rfl⟩

end Diagnostics
