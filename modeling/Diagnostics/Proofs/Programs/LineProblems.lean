import Diagnostics.Programs.LineParser
import Diagnostics.Proofs.Report.Runs

/-! # The problems of lines, once registered

To define the type of the problems of lines is to register it as an enumeration that provides for
itself. From then on a builder can be started with any of the problems, and has its code, however
many lines were read in between: all that is remembered of a problem is its code.
-/
namespace Diagnostics.Programs

/-- The problems of lines are registered as members of an enumeration without more ado, and what is
remembered of them are their codes. -/
structure Registered (type : VariantType) (s : Session) : Prop where
  notText : type.isText = false
  provided : s.registry.providers.lookup type.id = some (type, .ofEnumeration type none none)
  remembered : ∀ (p : LineProblem) r,
    s.registry.remembered.lookup ⟨type.id, .member p.name⟩ = some r → r = ⟨p.code, none⟩

/-- Where the problems of lines are registered, an action succeeds with an outcome of some kind and
changes nothing but the journal and what is remembered. -/
def Succeeds {α : Type} (type : VariantType) (x : Action α) (kind : α → Prop) : Prop :=
  ∀ s, Registered type s →
    ∃ a s', x s = .ok a s' ∧ kind a ∧ Registered type s' ∧ s.Kept s'

section Succeeds
variable {α β : Type} {type : VariantType} {x : Action α} {kind : α → Prop}

theorem succeeds_pure {a : α} (h : kind a) : Succeeds type (pure a) kind :=
  fun s hs => ⟨a, s, rfl, h, hs, .refl s⟩

theorem succeeds_ofExcept {y : Except Fault α} {a : α} (hy : y = .ok a) (h : kind a) :
    Succeeds type (Session.ofExcept y) kind := by
  subst hy
  exact succeeds_pure h

theorem succeeds_log (topic : Topic) (weight : Weight) (text : String) :
    Succeeds type (Session.log topic weight text) fun _ => True :=
  fun _ hs => ⟨(), _, rfl, trivial, ⟨hs.notText, hs.provided, hs.remembered⟩,
    ⟨rfl, rfl, rfl, rfl, rfl⟩⟩

theorem Succeeds.bind {f : α → Action β} {next : β → Prop} (hx : Succeeds type x kind)
    (hf : ∀ a, kind a → Succeeds type (f a) next) : Succeeds type (x >>= f) next := by
  intro s hs
  obtain ⟨a, t, ha, hkind, ht, hkept⟩ := hx s hs
  obtain ⟨b, u, hb, hnext, hu, hmore⟩ := hf a hkind t ht
  exact ⟨b, u, (Session.bind_of_ok ha).trans hb, hnext, hu, hkept.trans hmore⟩

end Succeeds

theorem LineProblem.name_injective {p q : LineProblem} (h : p.name = q.name) : p = q := by
  cases p <;> cases q <;> simp [name] at h ⊢

theorem LineProblem.code_ne (p : LineProblem) : p.code ≠ "" := by
  cases p <;> decide

theorem LineProblem.title_ne (p : LineProblem) : p.title ≠ "" := by
  cases p <;> decide

/-- To define and register the type of problems is enough, whatever happened before. -/
theorem defineLineProblems_registered {s : Session} (h : VariantType.providedCount ≤ s.typeCount) :
    ∃ type s', defineLineProblems s = .ok type s' ∧ Registered type s' := by
  let type : VariantType :=
    ⟨s.typeCount, "ParseError", "ParseError", "parser", ancestorsFrom none [], true⟩
  have hdefine : Session.defineType "ParseError" "ParseError" "parser" (ancestorsFrom none []) true s =
      .ok type { s with typeCount := s.typeCount + 1 } := rfl
  have hprovider : Registry.providerOr type none = .ok (.ofEnumeration type none none) := rfl
  obtain ⟨journal, hregister⟩ :=
    Session.register_of_ok hprovider { s with typeCount := s.typeCount + 1 }
  have hnumber : s.typeCount ≠ 1 := by
    have hcount : VariantType.providedCount = 8 := rfl
    omega
  refine ⟨type, _, (Session.bind_of_ok hdefine).trans (Session.bind_of_ok hregister), ?_, ?_, ?_⟩
  · simpa [type, VariantType.isText, VariantType.lineage, VariantType.text, VariantType.provided,
      VariantType.object, ancestorsFrom] using hnumber.symm
  · exact Keyed.lookup_put_self _ _ _
  · intro p r hr
    cases hr

theorem Registered.providerFor {type : VariantType} {s : Session} (h : Registered type s)
    (p : LineProblem) :
    s.registry.providerFor (p.variant type) = .ok (.ofEnumeration type none none) := by
  have hfound : ((p.variant type).type.lineage.findSome? fun id => s.registry.providers.lookup id) =
      some (type, .ofEnumeration type none none) := by
    rw [show (p.variant type).type.lineage = type.id :: type.ancestors from rfl,
      List.findSome?_cons, h.provided]
  unfold Registry.providerFor
  rw [hfound]

/-- An enumeration that provides for itself has the texts of its members as codes. -/
theorem resolve_ofEnumeration (type : VariantType) (p : LineProblem) (calls : Calls) :
    (Provider.ofEnumeration type none none).resolve (p.variant type) calls =
      (.ok ⟨p.code, none⟩, calls) := by
  have hlineage : type.lineage.contains type.id = true := by simp [VariantType.lineage]
  have hcode : memberCode type.qualifiedName p.name (.text p.code) = p.code := if_neg p.code_ne
  simp only [Provider.ofEnumeration, Provider.resolve, LineProblem.variant, Provider.resolveMember,
    hlineage, if_true, hcode]
  rfl

/-- One more answer that is remembered does no harm if it is the code of the problem asked for. -/
theorem Registered.learn {type : VariantType} {s : Session} (h : Registered type s) (p : LineProblem)
    (calls : Calls) (journal : List LogEntry) :
    Registered type { s with
      registry := { s.registry with
        remembered := s.registry.remembered.put ⟨type.id, .member p.name⟩ ⟨p.code, none⟩, calls }
      journal } where
  notText := h.notText
  provided := h.provided
  remembered := by
    intro q r hr
    by_cases hsame : q = p
    · subst hsame
      rw [Keyed.lookup_put_self] at hr
      exact (Option.some.inj hr).symm
    · have hkey : (⟨type.id, .member q.name⟩ : VariantKey) ≠ ⟨type.id, .member p.name⟩ := by
        intro heq
        exact hsame (LineProblem.name_injective (by simpa using heq))
      rw [Keyed.lookup_put_of_ne hkey] at hr
      exact h.remembered q r hr

theorem identify_succeeds (type : VariantType) (p : LineProblem) :
    Succeeds type (Session.identify (p.variant type)) (· = ⟨p.code, none⟩) := by
  intro s hs
  have hidentify : Session.identify (p.variant type) = Session.resolve (p.variant type) := by
    have htext : (p.variant type).text? = none := by
      simp [LineProblem.variant, Variant.text?, hs.notText]
    unfold Session.identify
    rw [htext]
  have hkept := Session.keeps_identify (p.variant type) s
  have hkey : (p.variant type).key? = some ⟨type.id, .member p.name⟩ := rfl
  have hprovider := hs.providerFor p
  have hresolution := Registry.resolution s.registry (p.variant type)
  rw [hidentify] at hkept ⊢
  cases hresolve : Registry.resolve (p.variant type) s.registry with
  | ok answer reg =>
    obtain ⟨r, fresh⟩ := answer
    obtain ⟨journal, hok⟩ := Session.resolve_of_ok hresolve
    rw [Session.after_of_ok hok] at hkept
    rw [hresolve] at hresolution
    refine ⟨r, _, hok, ?_⟩
    cases hresolution with
    | recalled hkey' hr =>
      cases hkey.symm.trans hkey'
      exact ⟨hs.remembered p r hr, ⟨hs.notText, hs.provided, hs.remembered⟩, hkept⟩
    | learned hkey' hnew hp hr =>
      cases hkey.symm.trans hkey'
      cases hprovider.symm.trans hp
      rw [resolve_ofEnumeration] at hr
      cases hr
      exact ⟨rfl, hs.learn p _ journal, hkept⟩
  | error fault reg =>
    rw [hresolve] at hresolution
    cases hresolution with
    | unhashable hkey' => cases hkey.symm.trans hkey'
    | unprovided _ _ hp => cases hprovider.symm.trans hp
    | failed _ _ hp hr =>
      cases hprovider.symm.trans hp
      rw [resolve_ofEnumeration] at hr
      cases hr

theorem forVariant_succeeds (type : VariantType) (p : LineProblem) :
    Succeeds type (Builder.forVariant (p.variant type) (.text p.title))
      (· = { identifier := .text p.code, title := .text p.title }) := by
  refine (identify_succeeds type p).bind ?_
  rintro r rfl
  exact succeeds_pure rfl

end Diagnostics.Programs
