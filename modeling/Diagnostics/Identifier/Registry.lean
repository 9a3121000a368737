import Diagnostics.Identifier.Provider

/-!
# The registry of providers

Providers are registered for types, and a variant is resolved by the provider of the nearest type
in the lineage of its own. What was resolved is remembered until the next registration, so each
variant is resolved once; what cannot be resolved is not remembered.
-/
namespace Diagnostics

/-- Providers by type, and the variants that were resolved with them. -/
structure Registry where
  providers : Keyed Nat (VariantType × Provider)
  remembered : Keyed VariantKey Resolved
  calls : Calls

namespace Registry

def empty : Registry := ⟨[], [], []⟩

def available (reg : Registry) : List String :=
  sortedNames (reg.providers.map fun e => e.2.1.qualifiedName)

/-- Registers a provider for a type and forgets what was resolved. -/
def add (reg : Registry) (type : VariantType) (p : Provider) : Registry :=
  { reg with providers := reg.providers.put type.id (type, p), remembered := [] }

def providerOr (type : VariantType) : Option Provider → Except Fault Provider
  | some p => .ok p
  | none =>
    if type.isEnumeration then .ok (.ofEnumeration type none none)
    else .error (.notEnumeration type.qualifiedName)

def providerFor (reg : Registry) (v : Variant) : Except Fault Provider :=
  match v.type.lineage.findSome? fun id => reg.providers.lookup id with
  | some (_, p) => .ok p
  | none => .error (.unknownVariant v.type.qualifiedName reg.available)

def clear (reg : Registry) : Registry :=
  { reg with providers := [], remembered := [] }

def ask (p : Provider) (v : Variant) : EStateM Fault Registry Resolved := fun reg =>
  match p.resolve v reg.calls with
  | (.ok r, calls) => .ok r { reg with calls }
  | (.error fault, calls) => .error fault { reg with calls }

def resolveFresh (key : VariantKey) (v : Variant) : EStateM Fault Registry Resolved := fun reg =>
  match reg.providerFor v with
  | .error fault => .error fault reg
  | .ok p =>
    match ask p v reg with
    | .ok r reg => .ok r { reg with remembered := reg.remembered.put key r }
    | .error fault reg => .error fault reg

/-- The identifier of a variant; the flag says whether its provider was asked for it. -/
def resolve (v : Variant) : EStateM Fault Registry (Resolved × Bool) := fun reg =>
  match v.key? with
  | none => .error .unhashable reg
  | some key =>
    match reg.remembered.lookup key with
    | some r => .ok (r, false) reg
    | none =>
      match resolveFresh key v reg with
      | .ok r reg => .ok (r, true) reg
      | .error fault reg => .error fault reg

end Registry

end Diagnostics
