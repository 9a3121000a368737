import Diagnostics.Identifier.DocLink
import Diagnostics.Identifier.Variant

/-!
# Providers of identifiers

A provider gives variants their codes and, where it knows them, links. The members of an
enumeration have their values as codes where these are texts, and otherwise their names behind a
namespace; a table lists codes by hand; and a provider of another kind may answer each call anew,
so how often it has been called is kept.
-/
namespace Diagnostics

/-- The code of a variant and, where it is known, the link to its documentation. -/
structure Resolved where
  code : String
  docUrl : Option String
  deriving DecidableEq, Repr

/-- The number of calls of each provider that counts them. -/
abbrev Calls := Keyed Nat Nat

inductive Provider where
  | members (type : VariantType) (space : String) (linker : Option DocLinker)
  | table (codes urls : Keyed (String × String) String)
  /-- A provider that answers each call anew. -/
  | custom (id : Nat) (name : String) (answer : Nat → Variant → Except Fault Resolved)

def inSpace (space name : String) : String :=
  space ++ "::" ++ name

/-- The code of a member: its value if that is a text with something in it, else its name. -/
def memberCode (space name : String) : Datum → String
  | .text s => if s = "" then inSpace space name else s
  | _ => inSpace space name

namespace Provider

/-- The provider for an enumeration. Its namespace is the name of the type unless one is given. -/
def ofEnumeration (type : VariantType) (space : Option String) (linker : Option DocLinker) :
    Provider :=
  let space := match space with
    | none => type.qualifiedName
    | some s => if s = "" then type.qualifiedName else s
  .members type space linker

def kindName : Provider → String
  | .members _ _ _ => "EnumIdentifierProvider"
  | .table _ _ => "TableIdentifierProvider"
  | .custom _ name _ => name

def codeFor? : Provider → Variant → Option String
  | .members _ space _, .member _ name value => some (memberCode space name value)
  | _, _ => none

def resolveMember (type : VariantType) (space : String) (linker : Option DocLinker) (v : Variant) :
    Except Fault Resolved :=
  match v with
  | .member t name value =>
    if t.lineage.contains type.id then do
      let url ← match linker with
        | some l => (l.link (type.moduleName ++ "." ++ type.qualifiedName) name).map some
        | none => .ok none
      return ⟨memberCode space name value, url⟩
    else .error (.unknownVariant t.qualifiedName [type.qualifiedName])
  | v => .error (.unknownVariant v.type.qualifiedName [type.qualifiedName])

def resolveListed (codes urls : Keyed (String × String) String) (v : Variant) :
    Except Fault Resolved :=
  match codes.lookup v.label with
  | some code => .ok ⟨code, urls.lookup v.label⟩
  | none =>
    .error (.unknownVariant v.type.qualifiedName
      (sortedNames (codes.keys.map fun k => inSpace k.1 k.2)))

def resolve (p : Provider) (v : Variant) (calls : Calls) : Except Fault Resolved × Calls :=
  match p with
  | .members type space linker => (resolveMember type space linker v, calls)
  | .table codes urls => (resolveListed codes urls v, calls)
  | .custom id _ answer =>
    let n := (calls.lookup id).getD 0 + 1
    (answer n v, calls.put id n)

end Provider

end Diagnostics
