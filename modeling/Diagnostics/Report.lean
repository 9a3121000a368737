import Diagnostics.Excerpt

/-!
# Reports

A report is a finding, perhaps with the report that caused it. A finding has an identifier and a
title; all else is optional. The chain of a report lists its own finding and then those of its
causes, the root cause last.
-/
namespace Diagnostics

structure Site where
  file : String
  line : Int
  column : Int
  deriving DecidableEq, Repr

/-- A site in the form in which editors take it. -/
def Site.text (s : Site) : String :=
  s.file ++ ":" ++ Text.decimal s.line ++ ":" ++ Text.decimal s.column

def Site.unknown : Site := ⟨"<unknown>", 0, 0⟩

/-- The site that is `depth` calls out from the innermost one. -/
def Site.ofCalls (calls : List Site) (depth : Int) : Site :=
  calls.getD depth.toNat .unknown

/-- What one report says by itself. -/
structure Finding where
  identifier : String
  title : String
  level : Level
  message : Option String
  help : Option String
  docUrl : Option String
  site : Option Site
  excerpts : List Excerpt
  deriving DecidableEq, Repr

def Finding.bare (identifier title : String) (level : Level) : Finding :=
  ⟨identifier, title, level, none, none, none, none, []⟩

/-- A finding, perhaps with the report that caused it. -/
inductive Report where
  | root (finding : Finding)
  | wrapping (finding : Finding) (cause : Report)
  deriving DecidableEq, Repr

namespace Report

def make (finding : Finding) : Option Report → Report
  | none => .root finding
  | some cause => .wrapping finding cause

def finding : Report → Finding
  | .root f => f
  | .wrapping f _ => f

def cause? : Report → Option Report
  | .root _ => none
  | .wrapping _ cause => some cause

def identifier (r : Report) : String := r.finding.identifier

def level (r : Report) : Level := r.finding.level

/-- The number of reports in the chain below this one. -/
def depth : Report → Nat
  | .root _ => 0
  | .wrapping _ cause => cause.depth + 1

/-- The report and its causes, the root cause last. -/
def causes : Report → List Report
  | r@(.root _) => [r]
  | r@(.wrapping _ cause) => r :: cause.causes

def chain (r : Report) : List Finding :=
  r.causes.map finding

def rootCause (r : Report) : Report :=
  r.causes.getLastD r

@[simp] theorem finding_make (f : Finding) (cause : Option Report) : (make f cause).finding = f := by
  cases cause <;> rfl

@[simp] theorem cause?_make (f : Finding) (cause : Option Report) :
    (make f cause).cause? = cause := by
  cases cause <;> rfl

@[simp] theorem length_causes (r : Report) : r.causes.length = r.depth + 1 := by
  induction r with
  | root f => rfl
  | wrapping f cause ih => simp [causes, depth, ih]

@[simp] theorem chain_root (f : Finding) : (root f).chain = [f] := rfl

@[simp] theorem chain_wrapping (f : Finding) (cause : Report) :
    (wrapping f cause).chain = f :: cause.chain := rfl

end Report

end Diagnostics
