import Diagnostics.Report

/-!
# Collections of reports

The reports of one run, in the order in which they came up.
-/
namespace Diagnostics

structure Collection where
  reports : List Report
  deriving DecidableEq, Repr

namespace Collection

def empty : Collection := ⟨[]⟩

def append (c : Collection) (r : Report) : Collection :=
  ⟨c.reports ++ [r]⟩

def extend (c : Collection) (rs : List Report) : Collection :=
  ⟨c.reports ++ rs⟩

def size (c : Collection) : Nat := c.reports.length

def isEmpty (c : Collection) : Bool := c.reports.isEmpty

def count (c : Collection) (l : Level) : Nat :=
  c.reports.countP fun r => r.level = l

def hasErrors (c : Collection) : Bool :=
  0 < c.count .error

/-- The report at a position; negative positions count from the end. -/
def get (c : Collection) (index : Int) : Except Fault Report :=
  let i := if index < 0 then index + c.size else index
  match if i < 0 then none else c.reports[i.toNat]? with
  | some r => .ok r
  | none => .error .noSuchReport

end Collection

end Diagnostics
