import Diagnostics.Fault

/-!
# Outcomes of checking data

Checking data yields a value, or all issues that were found, in the order in which the parts were
visited, or a fault that ended the check at once. Checks of several parts are combined by the
applicative operations: issues add up, and the first fault replaces everything.
-/
namespace Diagnostics

/-- The outcome of checking some data. -/
inductive Checked (α : Type) where
  | valid (value : α)
  | invalid (issues : List Issue)
  | refused (fault : Fault)
  deriving Repr

namespace Checked
variable {α β : Type}

def map (f : α → β) : Checked α → Checked β
  | .valid a => .valid (f a)
  | .invalid issues => .invalid issues
  | .refused fault => .refused fault

/-- Two checks one after the other, the second one also when the first one found issues. -/
def seq : Checked (α → β) → Checked α → Checked β
  | .valid f, x => x.map f
  | .invalid issues, .invalid more => .invalid (issues ++ more)
  | .invalid issues, .valid _ => .invalid issues
  | .invalid _, .refused fault => .refused fault
  | .refused fault, _ => .refused fault

instance : Applicative Checked where
  pure := .valid
  map := map
  seq f x := seq f (x ())

/-- A check that is made only of a valid value. -/
def andThen (x : Checked α) (f : α → Checked β) : Checked β :=
  match x with
  | .valid a => f a
  | .invalid issues => .invalid issues
  | .refused fault => .refused fault

def issue (kind : IssueKind) : Checked α :=
  .invalid [⟨[], kind⟩]

/-- Moves the issues to a part of some larger data. -/
def within (step : Step) : Checked α → Checked α
  | .valid a => .valid a
  | .invalid issues => .invalid (issues.map fun i => { i with path := step :: i.path })
  | .refused fault => .refused fault

def toExcept : Checked α → Except Fault α
  | .valid a => .ok a
  | .invalid issues => .error (.invalid issues)
  | .refused fault => .error fault

def ofExcept : Except Fault α → Checked α
  | .ok a => .valid a
  | .error fault => .refused fault

@[simp] theorem pure_eq (a : α) : (pure a : Checked α) = .valid a := rfl

@[simp] theorem map_eq (f : α → β) (x : Checked α) : f <$> x = x.map f := rfl

@[simp] theorem seq_eq (f : Checked (α → β)) (x : Checked α) : f <*> x = f.seq x := rfl

theorem toExcept_eq_ok {x : Checked α} {a : α} : x.toExcept = .ok a ↔ x = .valid a := by
  cases x <;> simp [toExcept]

end Checked

end Diagnostics
