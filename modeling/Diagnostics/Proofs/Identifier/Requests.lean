import Diagnostics.Proofs.Success

/-! # Requests to the registry

A run is a sequence of requests to the registry of a session, each of which is answered or refused.
What a request can come to is said once, here. A resolution refuses a variant that can be changed,
recalls an answer, finds no provider, or asks one and remembers its answer if there is one.
-/
namespace Diagnostics

/-- Types with one number are one type. -/
def TypesApart (variants : Variant → Prop) : Prop :=
  ∀ v w, variants v → variants w → v.type.id = w.type.id → v.type = w.type

theorem Variant.type_id_of_key? {v : Variant} {key : VariantKey} (h : v.key? = some key) :
    v.type.id = key.type := by
  cases v with
  | member t name value =>
    cases h
    rfl
  | object t text =>
    cases h
    rfl
  | plain d =>
    obtain ⟨c, -, rfl⟩ := Option.map_eq_some_iff.mp h
    rfl

/-- Variants that are remembered under one key are of one type. -/
theorem TypesApart.type_eq {variants : Variant → Prop} (h : TypesApart variants) {v w : Variant}
    {key : VariantKey} (hv : variants v) (hw : variants w) (hvkey : v.key? = some key)
    (hwkey : w.key? = some key) : v.type = w.type := by
  refine h v w hv hw ?_
  rw [Variant.type_id_of_key? hvkey, Variant.type_id_of_key? hwkey]

namespace Registry
variable {reg : Registry} {v : Variant}

inductive Request where
  | register (type : VariantType) (provider : Option Provider)
  | resolve (v : Variant)
  | providerFor (v : Variant)
  | available
  | reset

inductive Reply where
  | done
  | resolved (r : Resolved)
  | provider (p : Provider)
  | names (names : List String)

/-- Nothing is registered and nothing remembered. -/
structure Blank (reg : Registry) : Prop where
  providers : reg.providers = []
  remembered : reg.remembered = []

/-- What a resolution can come to. -/
inductive Resolution (reg : Registry) (v : Variant) :
    EStateM.Result Fault Registry (Resolved × Bool) → Prop where
  | unhashable (hkey : v.key? = none) : Resolution reg v (.error .unhashable reg)
  | recalled {key : VariantKey} {r : Resolved} (hkey : v.key? = some key)
      (hr : reg.remembered.lookup key = some r) : Resolution reg v (.ok (r, false) reg)
  | unprovided {key : VariantKey} {fault : Fault} (hkey : v.key? = some key)
      (hnew : reg.remembered.lookup key = none) (hp : reg.providerFor v = .error fault) :
      Resolution reg v (.error fault reg)
  | learned {key : VariantKey} {p : Provider} {r : Resolved} {calls : Calls}
      (hkey : v.key? = some key) (hnew : reg.remembered.lookup key = none)
      (hp : reg.providerFor v = .ok p) (hr : p.resolve v reg.calls = (.ok r, calls)) :
      Resolution reg v (.ok (r, true) { reg with remembered := reg.remembered.put key r, calls })
  | failed {key : VariantKey} {p : Provider} {fault : Fault} {calls : Calls}
      (hkey : v.key? = some key) (hnew : reg.remembered.lookup key = none)
      (hp : reg.providerFor v = .ok p) (hr : p.resolve v reg.calls = (.error fault, calls)) :
      Resolution reg v (.error fault { reg with calls })

theorem resolution (reg : Registry) (v : Variant) : Resolution reg v (resolve v reg) := by
  unfold resolve
  cases hkey : v.key? with
  | none => exact .unhashable hkey
  | some key =>
    cases hr : reg.remembered.lookup key with
    | some r =>
      simp only [hr]
      exact .recalled hkey hr
    | none =>
      simp only [hr, resolveFresh]
      cases hp : reg.providerFor v with
      | error fault => exact .unprovided hkey hr hp
      | ok p =>
        simp only [ask]
        rcases ha : p.resolve v reg.calls with ⟨answer, calls⟩
        cases answer with
        | ok r => exact .learned hkey hr hp ha
        | error fault => exact .failed hkey hr hp ha

/-- What is remembered is what a resolution comes to. -/
theorem resolve_of_lookup {key : VariantKey} {r : Resolved} (hkey : v.key? = some key)
    (hr : reg.remembered.lookup key = some r) : resolve v reg = .ok (r, false) reg := by
  unfold resolve
  simp only [hkey, hr]

/-- Whether a variant has a provider, and which, hangs on its type alone. -/
theorem providerFor_congr {w : Variant} (h : v.type = w.type) :
    reg.providerFor v = reg.providerFor w := by
  unfold providerFor
  rw [h]

theorem providerFor_of_none (h : ∀ id ∈ v.type.lineage, reg.providers.lookup id = none) :
    reg.providerFor v = .error (.unknownVariant v.type.qualifiedName reg.available) := by
  have hnone : (v.type.lineage.findSome? fun id => reg.providers.lookup id) = none :=
    List.findSome?_eq_none_iff.mpr h
  unfold providerFor
  rw [hnone]

end Registry

namespace Session
open Registry (Request Reply)
variable {α β : Type} {s : Session}

def outcome (x : Action α) (s : Session) : Except Fault α :=
  match x s with
  | .ok a _ => .ok a
  | .error fault _ => .error fault

/-- The session that an action leaves behind, also when it fails. -/
def after (x : Action α) (s : Session) : Session :=
  match x s with
  | .ok _ s' => s'
  | .error _ s' => s'

def serve : Request → Action Reply
  | .register type provider => do
    register type provider
    return .done
  | .resolve v => return .resolved (← resolve v)
  | .providerFor v => return .provider (← providerFor v)
  | .available => return .names (← available)
  | .reset => do
    resetProviders
    return .done

/-- The session after some requests, of which some may have been refused. -/
def afterAll (qs : List Request) (s : Session) : Session :=
  qs.foldl (fun s q => after (serve q) s) s

def outcomes : List Request → Session → List (Except Fault Reply)
  | [], _ => []
  | q :: qs, s => outcome (serve q) s :: outcomes qs (after (serve q) s)

theorem outcome_of_ok {x : Action α} {s' : Session} {a : α} (h : x s = .ok a s') :
    outcome x s = .ok a := by
  simp only [outcome, h]

theorem outcome_of_error {x : Action α} {s' : Session} {fault : Fault}
    (h : x s = .error fault s') : outcome x s = .error fault := by
  simp only [outcome, h]

theorem eq_ok_of_outcome {x : Action α} {a : α} (h : outcome x s = .ok a) :
    ∃ s', x s = .ok a s' := by
  unfold outcome at h
  cases hx : x s with
  | ok b s' =>
    rw [hx] at h
    cases h
    exact ⟨s', rfl⟩
  | error fault s' =>
    rw [hx] at h
    cases h

theorem after_of_ok {x : Action α} {s' : Session} {a : α} (h : x s = .ok a s') :
    after x s = s' := by
  simp only [after, h]

theorem after_of_error {x : Action α} {s' : Session} {fault : Fault}
    (h : x s = .error fault s') : after x s = s' := by
  simp only [after, h]

theorem outcome_congr {x y : Action α} {t : Session} (h : x s = y t) :
    outcome x s = outcome y t := by
  unfold outcome
  rw [h]

theorem after_congr {x y : Action α} {t : Session} (h : x s = y t) : after x s = after y t := by
  unfold after
  rw [h]

theorem outcome_ofExcept (x : Except Fault α) (s : Session) : outcome (ofExcept x) s = x := by
  cases x <;> rfl

theorem after_ofExcept (x : Except Fault α) (s : Session) : after (ofExcept x) s = s := by
  cases x <;> rfl

theorem bind_of_ok {x : Action α} {f : α → Action β} {s' : Session} {a : α}
    (h : x s = .ok a s') : (x >>= f) s = f a s' := by
  change EStateM.bind x f s = _
  simp only [EStateM.bind, h]

theorem bind_of_error {x : Action α} {f : α → Action β} {s' : Session} {fault : Fault}
    (h : x s = .error fault s') : (x >>= f) s = .error fault s' := by
  change EStateM.bind x f s = _
  simp only [EStateM.bind, h]

theorem outcome_bind_of_ok {x : Action α} {f : α → Action β} {s' : Session} {a : α}
    (h : x s = .ok a s') : outcome (x >>= f) s = outcome (f a) s' := by
  unfold outcome
  rw [bind_of_ok h]

/-- Where an action first takes a value that may be refused, its outcome is decided by that value and
by the rest of the action. -/
theorem outcome_bind_of_ofExcept {x : Action α} {f : α → Action β} {y : Except Fault α}
    {s' : Session} (h : x s = ofExcept y s') :
    outcome (x >>= f) s = y >>= fun a => outcome (f a) s' := by
  cases y with
  | ok a => exact outcome_bind_of_ok h
  | error fault => exact outcome_of_error (bind_of_error h)

theorem register_of_ok {type : VariantType} {given : Option Provider} {p : Provider}
    (h : Registry.providerOr type given = .ok p) (s : Session) : ∃ journal,
      register type given s = .ok () { s with registry := s.registry.add type p, journal } := by
  unfold register
  rw [h]
  exact ⟨_, rfl⟩

theorem register_of_error {type : VariantType} {given : Option Provider} {fault : Fault}
    (h : Registry.providerOr type given = .error fault) (s : Session) :
    register type given s = .error fault s := by
  unfold register
  rw [h]
  rfl

theorem providerFor_of_ok {v : Variant} {p : Provider} (h : s.registry.providerFor v = .ok p) :
    providerFor v s = .ok p s := by
  change ofExcept (s.registry.providerFor v) s = _
  rw [h]
  rfl

theorem providerFor_of_error {v : Variant} {fault : Fault}
    (h : s.registry.providerFor v = .error fault) : providerFor v s = .error fault s := by
  change ofExcept (s.registry.providerFor v) s = _
  rw [h]
  rfl

theorem resolve_of_ok {v : Variant} {r : Resolved} {fresh : Bool} {reg : Registry}
    (h : Registry.resolve v s.registry = .ok (r, fresh) reg) :
    ∃ journal, resolve v s = .ok r { s with registry := reg, journal } := by
  have hreg : onRegistry (Registry.resolve v) s = .ok (r, fresh) { s with registry := reg } := by
    simp only [onRegistry, h]
  unfold resolve
  rw [bind_of_ok hreg]
  cases fresh
  · exact ⟨s.journal, rfl⟩
  · exact ⟨_, rfl⟩

theorem resolve_of_error {v : Variant} {fault : Fault} {reg : Registry}
    (h : Registry.resolve v s.registry = .error fault reg) :
    resolve v s = .error fault { s with registry := reg } := by
  have hreg : onRegistry (Registry.resolve v) s = .error fault { s with registry := reg } := by
    simp only [onRegistry, h]
  unfold resolve
  rw [bind_of_error hreg]

/-- What a request can come to. -/
inductive Service (s : Session) : Request → EStateM.Result Fault Session Reply → Prop where
  | registered {type : VariantType} {given : Option Provider} {p : Provider}
      {journal : List LogEntry} (h : Registry.providerOr type given = .ok p) :
      Service s (.register type given)
        (.ok .done { s with registry := s.registry.add type p, journal })
  | notRegistered {type : VariantType} {given : Option Provider} {fault : Fault}
      (h : Registry.providerOr type given = .error fault) :
      Service s (.register type given) (.error fault s)
  | resolved {v : Variant} {r : Resolved} {fresh : Bool} {reg : Registry}
      {journal : List LogEntry} (h : Registry.resolve v s.registry = .ok (r, fresh) reg) :
      Service s (.resolve v) (.ok (.resolved r) { s with registry := reg, journal })
  | notResolved {v : Variant} {fault : Fault} {reg : Registry}
      (h : Registry.resolve v s.registry = .error fault reg) :
      Service s (.resolve v) (.error fault { s with registry := reg })
  | provided {v : Variant} {p : Provider} (h : s.registry.providerFor v = .ok p) :
      Service s (.providerFor v) (.ok (.provider p) s)
  | notProvided {v : Variant} {fault : Fault} (h : s.registry.providerFor v = .error fault) :
      Service s (.providerFor v) (.error fault s)
  | listed : Service s .available (.ok (.names s.registry.available) s)
  | cleared : Service s .reset (.ok .done { s with registry := s.registry.clear })

theorem service (q : Request) (s : Session) : Service s q (serve q s) := by
  cases q with
  | register type given =>
    cases hp : Registry.providerOr type given with
    | ok p =>
      obtain ⟨journal, hregister⟩ := register_of_ok hp s
      rw [show serve (.register type given) s = _ from bind_of_ok hregister]
      exact .registered hp
    | error fault =>
      rw [show serve (.register type given) s = _ from bind_of_error (register_of_error hp s)]
      exact .notRegistered hp
  | resolve v =>
    cases hr : Registry.resolve v s.registry with
    | ok a reg =>
      obtain ⟨journal, hresolve⟩ := resolve_of_ok hr
      rw [show serve (.resolve v) s = _ from bind_of_ok hresolve]
      exact .resolved hr
    | error fault reg =>
      rw [show serve (.resolve v) s = _ from bind_of_error (resolve_of_error hr)]
      exact .notResolved hr
  | providerFor v =>
    cases hp : s.registry.providerFor v with
    | ok p =>
      rw [show serve (.providerFor v) s = _ from bind_of_ok (providerFor_of_ok hp)]
      exact .provided hp
    | error fault =>
      rw [show serve (.providerFor v) s = _ from bind_of_error (providerFor_of_error hp)]
      exact .notProvided hp
  | available => exact .listed
  | reset => exact .cleared

end Session

end Diagnostics
