import Diagnostics.Proofs.Identifier.EntryPoints

/-! # The last write of a field counts

A builder goes through any number of calls, and the session may change in any way between them. What
it holds after that can be read off the entries that the calls made: of each field the last one
written, and all excerpts in order. Only a resolved identifier writes into two fields, and into the
second one only if it has a link. Finishing a builder is checking these values, where an identifier
and a title given at the end count as two more calls.
-/
namespace Diagnostics

namespace Builder

/-- The calls that take a builder to the next one. -/
inductive Call where
  | withIdentifier (v : Variant)
  | withTitle (title : Datum)
  | withMessage (message : Datum)
  | withHelp (help : Datum)
  | withDocUrl (docUrl : Datum)
  | withLevel (level : Datum)
  | warning
  | info
  | withSite (site : Datum)
  | here (calls : List Site)
  | addExcerpt (e : Datum)

def Call.perform : Call → Builder → Action Builder
  | .withIdentifier v, b => b.withIdentifier v
  | .withTitle title, b => pure (b.withTitle title)
  | .withMessage message, b => pure (b.withMessage message)
  | .withHelp help, b => pure (b.withHelp help)
  | .withDocUrl docUrl, b => pure (b.withDocUrl docUrl)
  | .withLevel level, b => pure (b.withLevel level)
  | .warning, b => pure (b.atLevel .warning)
  | .info, b => pure (b.atLevel .info)
  | .withSite site, b => pure (b.withSite site)
  | .here calls, b => pure (b.here calls)
  | .addExcerpt e, b => pure (b.addExcerpt e)

/-- What a call writes, whatever the builder holds. -/
inductive Entry where
  | identifier (r : Resolved)
  | title (d : Datum)
  | message (d : Datum)
  | help (d : Datum)
  | docUrl (d : Datum)
  | level (d : Datum)
  | site (d : Datum)
  | excerpt (d : Datum)

/-- The entry that a call makes in a session, which is asked for an identifier alone. -/
def Call.entry : Call → Action Entry
  | .withIdentifier v => return .identifier (← Session.identify v)
  | .withTitle title => pure (.title title)
  | .withMessage message => pure (.message message)
  | .withHelp help => pure (.help help)
  | .withDocUrl docUrl => pure (.docUrl docUrl)
  | .withLevel level => pure (.level level)
  | .warning => pure (.level (.text "warning"))
  | .info => pure (.level (.text "info"))
  | .withSite site => pure (.site site)
  | .here calls => pure (.site (.site (Site.ofCalls calls 0)))
  | .addExcerpt e => pure (.excerpt e)

namespace Entry

def identifier? : Entry → Option Datum
  | .identifier r => some (.text r.code)
  | _ => none

def title? : Entry → Option Datum
  | .title d => some d
  | _ => none

def level? : Entry → Option Datum
  | .level d => some d
  | _ => none

def message? : Entry → Option Datum
  | .message d => some d
  | _ => none

def help? : Entry → Option Datum
  | .help d => some d
  | _ => none

/-- A link is written by itself or with an identifier that has one. -/
def docUrl? : Entry → Option Datum
  | .docUrl d => some d
  | .identifier r => r.docUrl.map .text
  | _ => none

def site? : Entry → Option Datum
  | .site d => some d
  | _ => none

def excerpt? : Entry → Option Datum
  | .excerpt d => some d
  | _ => none

end Entry

/-- The last value that was written to a field, or the one that it had at first. -/
def lastWritten (field? : Entry → Option Datum) (initial : Datum) (es : List Entry) : Datum :=
  (es.filterMap field?).getLast?.getD initial

/-- A builder by what was written since. -/
def written (b : Builder) (es : List Entry) : Builder where
  identifier := lastWritten Entry.identifier? b.identifier es
  title := lastWritten Entry.title? b.title es
  level := lastWritten Entry.level? b.level es
  message := lastWritten Entry.message? b.message es
  help := lastWritten Entry.help? b.help es
  docUrl := lastWritten Entry.docUrl? b.docUrl es
  site := lastWritten Entry.site? b.site es
  excerpts := b.excerpts ++ es.filterMap Entry.excerpt?

/-- A call and the session that it finds. -/
abbrev Turn := Session × Call

def performAll (turns : List Turn) (b : Builder) : Except Fault Builder :=
  turns.foldlM (fun b t => Session.outcome (t.2.perform b) t.1) b

/-- The entries of some calls, unless an identifier among them cannot be resolved. -/
def entries (turns : List Turn) : Except Fault (List Entry) :=
  turns.mapM fun t => Session.outcome t.2.entry t.1

/-- An identifier and a title that are given at the end, as calls. -/
def overrides (identifier : Option Variant) (title : Datum) (s : Session) : List Turn :=
  identifier.toList.map (fun v => (s, .withIdentifier v)) ++
    match title with
    | .null => []
    | title => [(s, .withTitle title)]

theorem lastWritten_cons (field? : Entry → Option Datum) (initial : Datum) (e : Entry)
    (es : List Entry) :
    lastWritten field? initial (e :: es) =
      lastWritten field? (lastWritten field? initial [e]) es := by
  cases h : field? e with
  | none => simp [lastWritten, h]
  | some d => simp [lastWritten, h, List.getLast?_cons]

/-- The builder with one more entry. -/
def write (b : Builder) : Entry → Builder
  | .identifier r => b.resolvedTo r
  | .title d => b.withTitle d
  | .message d => b.withMessage d
  | .help d => b.withHelp d
  | .docUrl d => b.withDocUrl d
  | .level d => b.withLevel d
  | .site d => b.withSite d
  | .excerpt d => b.addExcerpt d

@[simp] theorem written_nil (b : Builder) : b.written [] = b := by
  simp [written, lastWritten]

/-- An entry leaves alone every field that it does not write to. -/
theorem written_singleton (b : Builder) (e : Entry) : b.written [e] = b.write e := by
  cases e with
  | identifier r =>
    cases hurl : r.docUrl <;>
      simp [written, write, resolvedTo, lastWritten, Entry.identifier?, Entry.title?, Entry.level?,
        Entry.message?, Entry.help?, Entry.docUrl?, Entry.site?, Entry.excerpt?, hurl]
  | _ =>
    simp [written, write, withTitle, withMessage, withHelp, withDocUrl, withLevel, withSite,
      addExcerpt, lastWritten, Entry.identifier?, Entry.title?, Entry.level?, Entry.message?,
      Entry.help?, Entry.docUrl?, Entry.site?, Entry.excerpt?]

theorem written_cons (b : Builder) (e : Entry) (es : List Entry) :
    b.written (e :: es) = (b.write e).written es := by
  have hexcerpts : (e :: es).filterMap Entry.excerpt? =
      [e].filterMap Entry.excerpt? ++ es.filterMap Entry.excerpt? := by
    rw [← List.filterMap_append, List.singleton_append]
  rw [← written_singleton]
  simp only [written, lastWritten_cons _ _ e es, hexcerpts, List.append_assoc]

theorem perform_eq (c : Call) (b : Builder) (s : Session) :
    Session.outcome (c.perform b) s = (Session.outcome c.entry s).map b.write := by
  cases c with
  | withIdentifier v =>
    cases h : Session.identify v s with
    | ok r s' =>
      have hentry : Call.entry (.withIdentifier v) s = .ok (.identifier r) s' :=
        Session.bind_of_ok h
      have hperform : Call.perform (.withIdentifier v) b s = .ok (b.resolvedTo r) s' :=
        withIdentifier_of_ok h b
      rw [Session.outcome_of_ok hentry, Session.outcome_of_ok hperform]
      rfl
    | error fault s' =>
      have hentry : Call.entry (.withIdentifier v) s = .error fault s' := Session.bind_of_error h
      have hperform : Call.perform (.withIdentifier v) b s = .error fault s' :=
        withIdentifier_of_error h b
      rw [Session.outcome_of_error hentry, Session.outcome_of_error hperform]
      rfl
  | _ => rfl

theorem performAll_eq (turns : List Turn) (b : Builder) :
    performAll turns b = (entries turns).map b.written := by
  induction turns generalizing b with
  | nil => exact congrArg Except.ok b.written_nil.symm
  | cons t turns ih =>
    unfold performAll entries at ih ⊢
    rw [List.foldlM_cons, List.mapM_cons, perform_eq]
    cases Session.outcome t.2.entry t.1 with
    | error fault => rfl
    | ok e =>
      simp only [Except.map, bind, Except.bind] at ih ⊢
      rw [ih]
      cases List.mapM (fun t => Session.outcome t.2.entry t.1) turns with
      | error fault => rfl
      | ok es => exact congrArg Except.ok (b.written_cons e es).symm

theorem performAll_append (turns more : List Turn) (b : Builder) :
    performAll (turns ++ more) b = performAll turns b >>= performAll more :=
  List.foldlM_append

theorem performAll_title (title : Datum) (s : Session) (b : Builder) :
    performAll (overrides none title s) b = .ok (b.titledOver title) := by
  cases title <;> rfl

theorem outcome_overridden (b : Builder) (identifier : Option Variant) (title : Datum)
    (s : Session) :
    Session.outcome (b.overridden identifier title) s =
      performAll (overrides identifier title s) b := by
  cases identifier with
  | none =>
    rw [performAll_title]
    cases title <;> rfl
  | some v =>
    have hcalls : overrides (some v) title s = [(s, .withIdentifier v)] ++ overrides none title s :=
      rfl
    rw [hcalls, performAll_append, overridden_some]
    cases h : b.withIdentifier v s with
    | ok b' s' =>
      have hfirst : performAll [(s, .withIdentifier v)] b = .ok b' := by
        simp [performAll, Call.perform, Session.outcome_of_ok h]
      have hover : (b.withIdentifier v >>= fun b => pure (b.titledOver title)) s =
          .ok (b'.titledOver title) s' := Session.bind_of_ok h
      rw [hfirst, Session.outcome_of_ok hover]
      exact (performAll_title title s b').symm
    | error fault s' =>
      have hfirst : performAll [(s, .withIdentifier v)] b = .error fault := by
        simp [performAll, Call.perform, Session.outcome_of_error h]
      rw [hfirst, Session.outcome_of_error (Session.bind_of_error h)]
      rfl

theorem outcome_build (b : Builder) (identifier : Option Variant) (title : Datum) (s : Session) :
    Session.outcome (b.build identifier title) s =
      performAll (overrides identifier title s) b >>= fun b => Validation.checkReport b.data := by
  rw [← outcome_overridden]
  cases h : b.overridden identifier title s with
  | ok b' s' =>
    have hbuild : b.build identifier title s = Session.ofExcept b'.finish s' :=
      Session.bind_of_ok h
    rw [Session.outcome, hbuild, finish_eq_checkReport, Session.outcome_of_ok h]
    cases hcheck : Validation.checkReport b'.data <;> exact hcheck.symm
  | error fault s' =>
    have hbuild : b.build identifier title s = .error fault s' := Session.bind_of_error h
    rw [Session.outcome_of_error hbuild, Session.outcome_of_error h]
    rfl

end Builder

open Builder (Turn performAll entries overrides)

/-- Calls on a builder fail where an identifier cannot be resolved, and otherwise leave in each
field the last value that was written to it. To finish the builder is to check these values as data,
with an identifier and a title given at the end written last, and gives the same report or fault. -/
theorem build_eq_check_lastWritten (b : Builder) (turns : List Turn) :
    performAll turns b = (entries turns).map b.written ∧
    ∀ b', performAll turns b = .ok b' → ∀ identifier title s,
      Session.outcome (b'.build identifier title) s =
        entries (turns ++ overrides identifier title s) >>= fun es =>
          Validation.checkReport (b.written es).data := by
  refine ⟨Builder.performAll_eq turns b, ?_⟩
  intro b' hb' identifier title s
  have hall : performAll (overrides identifier title s) b' =
      (entries (turns ++ overrides identifier title s)).map b.written := by
    rw [← Builder.performAll_eq, Builder.performAll_append, hb']
    rfl
  rw [Builder.outcome_build, hall]
  cases entries (turns ++ overrides identifier title s) <;> rfl

def diskFull : Variant := .object ⟨8, "Disk", "Disk", "m", [0], false⟩ "full"

def diskCodes : Provider :=
  .table [(("Disk", "full"), "D1")] [(("Disk", "full"), "https://example.org/D1")]

def diskSession : Session :=
  Session.afterAll [.register diskFull.type (some diskCodes)] Session.initial

/-- Two identifiers, of which only the first has a link, and a title that is no text. -/
def diskTurns : List Turn :=
  [(diskSession, .withIdentifier diskFull), (Session.initial, .withTitle (.int 3)),
    (Session.initial, .withIdentifier (.plain (.text "E2"))), (Session.initial, .warning),
    (Session.initial, .withLevel (.text "info")), (Session.initial, .addExcerpt (.record []))]

def diskBuilder : Builder where
  identifier := .text "E2"
  title := .int 3
  level := .text "info"
  docUrl := .text "https://example.org/D1"
  excerpts := [.record []]

theorem build_eq_check_lastWritten_disk :
    performAll diskTurns {} = .ok diskBuilder ∧
    (∀ identifier title s, Session.outcome (diskBuilder.build identifier title) s =
      entries (diskTurns ++ overrides identifier title s) >>= fun es =>
        Validation.checkReport (Builder.written {} es).data) ∧
    Session.outcome (diskBuilder.build none .null) diskSession =
      .error (.invalid [⟨[.field "title"], .textExpected⟩]) ∧
    Session.outcome (diskBuilder.build (some diskFull) (.text "full")) diskSession =
      .ok (.root ⟨"D1", "full", .info, none, none, some "https://example.org/D1", none,
        [⟨[], [], none⟩]⟩) := by
  have hmade : performAll diskTurns {} = .ok diskBuilder := by rfl
  have hbuild := (build_eq_check_lastWritten {} diskTurns).2 diskBuilder hmade
  refine ⟨hmade, hbuild, ?_, ?_⟩
  · rw [hbuild]
    rfl
  · rw [hbuild]
    rfl

end Diagnostics
