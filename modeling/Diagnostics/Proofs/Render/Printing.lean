import Diagnostics.Emit
import Diagnostics.Proofs.Identifier.Requests

/-! # Printing is all or nothing

What is printed is one text: the rendering in the chosen style with a newline behind it. If the
settings cannot be had or the chosen style is not on the shelf, nothing is printed at all. Without
colour the style is always the plain one, so neither the style of the settings nor, where the
settings decide about colour by themselves, the environment or the stream have a say.
-/
namespace Diagnostics
open Session (outcome after settingsOr)

/-- What a stream holds after something was printed on it. -/
def heldAfter (p : Printable) (stream : Stream) (given : Option Settings) (s : Session)
    (held : String) : String :=
  match outcome (emit p stream given) s with
  | .ok text => held ++ text
  | .error _ => held

/-- The text for a report or a collection in the style of a name. -/
def textIn (p : Printable) (shelf : StyleShelf) (name : String) : Except Fault String :=
  (shelf.get name).map fun style => p.render style ++ "\n"

section Emit
variable {p : Printable} {stream stream' : Stream} {given given' : Option Settings}
  {chosen chosen' : Settings} {s s' : Session}

theorem textIn_of_lookup {shelf : StyleShelf} {name : String} {style : Style}
    (h : shelf.lookup name = some style) (p : Printable) :
    textIn p shelf name = .ok (p.render style ++ "\n") := by
  unfold textIn StyleShelf.get
  rw [h]
  rfl

theorem textIn_of_lookup_none {shelf : StyleShelf} {name : String} (h : shelf.lookup name = none)
    (p : Printable) : textIn p shelf name = .error (.unsupportedStyle name shelf.available) := by
  unfold textIn StyleShelf.get
  rw [h]
  rfl

/-- To look for settings leaves the session alone. -/
theorem settingsOr_eq (given : Option Settings) (s : Session) :
    settingsOr given s = Session.ofExcept (outcome (settingsOr given) s) s := by
  cases given with
  | some settings => rfl
  | none =>
    change Session.ofExcept (Settings.load [] s.environment) s = Session.ofExcept
      (outcome (Session.ofExcept (Settings.load [] s.environment)) s) s
    cases Settings.load [] s.environment <;> rfl

theorem emit_of_settings (h : outcome (settingsOr given) s = .ok chosen) (p : Printable)
    (stream : Stream) : ∃ journal, emit p stream given s =
      Session.ofExcept (textIn p s.styles (styleName chosen s.environment stream))
        { s with journal } := by
  have hsettings : settingsOr given s = .ok chosen s := by
    rw [settingsOr_eq, h]
    rfl
  let name := styleName chosen s.environment stream
  let logged : Session := { s with journal := s.journal ++ [⟨.styles, .debug,
    "Selected style " ++ Text.quoted name ++ " (color=" ++ chosen.color.word ++ ")"⟩] }
  have hselect : selectStyle given stream s = Session.ofExcept (s.styles.get name) logged := by
    unfold selectStyle
    rw [Session.bind_of_ok hsettings]
    rfl
  refine ⟨logged.journal, ?_⟩
  change _ = Session.ofExcept (textIn p s.styles name) logged
  unfold textIn emit
  cases hstyle : s.styles.get name with
  | ok style =>
    rw [hstyle] at hselect
    rw [Session.bind_of_ok hselect]
    rfl
  | error fault =>
    rw [hstyle] at hselect
    exact Session.bind_of_error hselect

theorem emit_of_settings_error {fault : Fault} (h : outcome (settingsOr given) s = .error fault)
    (p : Printable) (stream : Stream) : emit p stream given s = .error fault s := by
  have hsettings : settingsOr given s = .error fault s := by
    rw [settingsOr_eq, h]
    rfl
  exact Session.bind_of_error (Session.bind_of_error hsettings)

theorem outcome_emit (h : outcome (settingsOr given) s = .ok chosen) (p : Printable)
    (stream : Stream) : outcome (emit p stream given) s =
      textIn p s.styles (styleName chosen s.environment stream) := by
  obtain ⟨journal, hemit⟩ := emit_of_settings h p stream
  exact (Session.outcome_congr hemit).trans (Session.outcome_ofExcept _ _)

/-- Printing, be it done or not, leaves no more than an entry of the journal behind. -/
theorem exists_journal_after_emit (p : Printable) (stream : Stream) (given : Option Settings)
    (s : Session) : ∃ journal, after (emit p stream given) s = { s with journal } := by
  cases h : outcome (settingsOr given) s with
  | ok chosen =>
    obtain ⟨journal, hemit⟩ := emit_of_settings h p stream
    exact ⟨journal, (Session.after_congr hemit).trans (Session.after_ofExcept _ _)⟩
  | error fault => exact ⟨s.journal, Session.after_of_error (emit_of_settings_error h p stream)⟩

theorem heldAfter_of_ok {text : String} (h : outcome (emit p stream given) s = .ok text)
    (held : String) : heldAfter p stream given s held = held ++ text := by
  unfold heldAfter
  rw [h]

theorem heldAfter_of_error {fault : Fault} (h : outcome (emit p stream given) s = .error fault)
    (held : String) : heldAfter p stream given s held = held := by
  unfold heldAfter
  rw [h]

theorem styleName_of_no_color {env : Environment} (h : colorEnabled chosen env stream = false) :
    styleName chosen env stream = Style.plain.name := by
  simp [styleName, h]

theorem styleName_of_never (h : chosen.color = .never) (env : Environment) (stream : Stream) :
    styleName chosen env stream = Style.plain.name :=
  styleName_of_no_color (by simp [colorEnabled, h])

theorem styleName_of_always (h : chosen.color = .always) (env : Environment) (stream : Stream) :
    styleName chosen env stream = chosen.style := by
  simp [styleName, colorEnabled, h]

/-- Of a session and a stream, printing looks at the shelf and at what decides about the style. -/
theorem outcome_emit_congr (h : outcome (settingsOr given) s = .ok chosen)
    (h' : outcome (settingsOr given') s' = .ok chosen') (hstyles : s'.styles = s.styles)
    (hname : styleName chosen' s'.environment stream' = styleName chosen s.environment stream)
    (p : Printable) : outcome (emit p stream' given') s' = outcome (emit p stream given) s := by
  rw [outcome_emit h', outcome_emit h, hstyles, hname]

end Emit

/-- If the chosen style is not on the shelf, printing fails with its name and the stream holds what
it held; otherwise the stream holds the rendering in this style and a newline more. The same goes
for settings that cannot be had, and in no case is more left behind than an entry of the journal.
Without colour, and with the plain style at its place, what is printed is the plain text. Where the
settings rule colour out, neither their style nor the environment nor the stream make a difference,
and where they demand it, neither the environment nor the stream do. -/
theorem printing_all_or_nothing (p : Printable) :
    (∀ stream given s chosen held, outcome (settingsOr given) s = .ok chosen →
      let name := styleName chosen s.environment stream
      (s.styles.lookup name = none →
        outcome (emit p stream given) s = .error (.unsupportedStyle name s.styles.available) ∧
        heldAfter p stream given s held = held) ∧
      (∀ style, s.styles.lookup name = some style →
        outcome (emit p stream given) s = .ok (p.render style ++ "\n") ∧
        heldAfter p stream given s held = held ++ (p.render style ++ "\n")) ∧
      (colorEnabled chosen s.environment stream = false →
        s.styles.lookup Style.plain.name = some .plain →
        heldAfter p stream given s held = held ++ (p.text ++ "\n"))) ∧
    (∀ stream given s fault held, outcome (settingsOr given) s = .error fault →
      outcome (emit p stream given) s = .error fault ∧
      heldAfter p stream given s held = held) ∧
    (∀ stream given s, ∃ journal, after (emit p stream given) s = { s with journal }) ∧
    ∀ stream stream' given given' chosen chosen' s s', outcome (settingsOr given) s = .ok chosen →
      outcome (settingsOr given') s' = .ok chosen' → s'.styles = s.styles →
      (chosen.color = .never → chosen'.color = .never →
        outcome (emit p stream' given') s' = outcome (emit p stream given) s) ∧
      (chosen.color = .always → chosen'.color = .always → chosen'.style = chosen.style →
        outcome (emit p stream' given') s' = outcome (emit p stream given) s) := by
  refine ⟨?_, ?_, exists_journal_after_emit p, ?_⟩
  · intro stream given s chosen held hsettings name
    have hemit := outcome_emit hsettings p stream
    have hfound : ∀ style, s.styles.lookup name = some style →
        outcome (emit p stream given) s = .ok (p.render style ++ "\n") :=
      fun style hstyle => hemit.trans (textIn_of_lookup hstyle p)
    refine ⟨?_, fun style hstyle => ⟨hfound style hstyle, heldAfter_of_ok (hfound style hstyle) held⟩,
      ?_⟩
    · intro hnone
      rw [textIn_of_lookup_none hnone] at hemit
      exact ⟨hemit, heldAfter_of_error hemit held⟩
    · intro hcolor hplain
      rw [← styleName_of_no_color hcolor] at hplain
      exact heldAfter_of_ok (hfound .plain hplain) held
  · intro stream given s fault held hsettings
    have hemit := Session.outcome_of_error (emit_of_settings_error hsettings p stream)
    exact ⟨hemit, heldAfter_of_error hemit held⟩
  · intro stream stream' given given' chosen chosen' s s' hsettings hsettings' hstyles
    constructor
    · intro hnever hnever'
      refine outcome_emit_congr hsettings hsettings' hstyles ?_ p
      rw [styleName_of_never hnever', styleName_of_never hnever]
    · intro halways halways' hstyle
      refine outcome_emit_congr hsettings hsettings' hstyles ?_ p
      rw [styleName_of_always halways', styleName_of_always halways, hstyle]

/-- Colour is demanded, and only the plain style is on the shelf. -/
def forcedPlain : Session :=
  { Session.initial with
    styles := [("plain", .plain)]
    environment := ⟨[("FORCE_COLOR", "1")], none⟩ }

def usualSettings : Settings := ⟨"WARNING", .auto, "ansi", DocLinker.defaultTemplate⟩

theorem printing_all_or_nothing_forced :
    let p : Printable := .report (.root (.bare "E1" "t" .error))
    let never : Settings := { usualSettings with color := .never, style := "bright" }
    (outcome (emit p .file (some usualSettings)) forcedPlain =
        .error (.unsupportedStyle "ansi" forcedPlain.styles.available) ∧
      heldAfter p .file (some usualSettings) forcedPlain "held\n" = "held\n") ∧
    heldAfter p .terminal (some never) forcedPlain "held\n" = "held\nerror[E1]: t\n" ∧
    outcome (emit p .terminal (some never)) forcedPlain =
      outcome (emit p .file (some { never with style := "ansi" }))
        { forcedPlain with environment := .empty } := by
  intro p never
  obtain ⟨hprinted, -, -, hruns⟩ := printing_all_or_nothing p
  have hshelf : forcedPlain.styles.lookup "ansi" = none := by decide
  obtain ⟨hmissing, -, -⟩ := hprinted .file (some usualSettings) forcedPlain _ "held\n" rfl
  obtain ⟨-, -, hplain⟩ := hprinted .terminal (some never) forcedPlain _ "held\n" rfl
  refine ⟨hmissing hshelf, (hplain rfl rfl).trans rfl, ?_⟩
  exact ((hruns .terminal .file (some never) _ _ _ forcedPlain { forcedPlain with environment := .empty }
    rfl rfl rfl).1 rfl rfl).symm

end Diagnostics
