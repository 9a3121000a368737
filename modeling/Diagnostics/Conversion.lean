import Diagnostics.Collection
import Diagnostics.Session
import Diagnostics.Validation.Report

/-!
# Converting reports

A report is converted by wrapping it in one with another identifier and title and the same level,
which has it as its cause. Errors that carry a report, and collections, are converted report by
report.
-/
namespace Diagnostics

def Report.wrap (code : String) (title : Datum) (r : Report) : Except Fault Report :=
  Validation.checkReport (.record [("identifier", .text code), ("title", title),
    ("level", .text r.level.word), ("cause", .report r)])

def Report.convert (identifier : Variant) (title : Datum) (r : Report) : Action Report := do
  let resolved ← Session.identify identifier
  let wrapper ← Session.ofExcept (r.wrap resolved.code title)
  Session.log .conversion .debug
    ("Converted " ++ r.identifier ++ " -> " ++ wrapper.identifier ++ " (chain depth " ++
      Text.natural wrapper.depth ++ ")")
  return wrapper

def convertAll (identifier : Variant) (title : Datum) : List Report → Action (List Report)
  | [] => pure []
  | r :: rs => do
    let wrapper ← r.convert identifier title
    let wrappers ← convertAll identifier title rs
    return wrapper :: wrappers

def Collection.convert (identifier : Variant) (title : Datum) (c : Collection) :
    Action Collection := do
  return ⟨← convertAll identifier title c.reports⟩

structure ReportedError where
  report : Report
  deriving DecidableEq, Repr

def ReportedError.convert (identifier : Variant) (title : Datum) (e : ReportedError) :
    Action ReportedError := do
  return ⟨← e.report.convert identifier title⟩

/-- Does an action a number of times, each time to the outcome of the one before. -/
def repeated {α : Type} (f : α → Action α) : Nat → α → Action α
  | 0, a => pure a
  | n + 1, a => do repeated f n (← f a)

end Diagnostics
