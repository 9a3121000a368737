import Diagnostics.Text.Numeral

/-!
# Levels

The three levels of severity that reports and highlights carry, their words, and the phrase that
counts reports of one level.
-/
namespace Diagnostics

inductive Level where
  | error | warning | info
  deriving DecidableEq, Repr, Inhabited

namespace Level

def all : List Level := [.error, .warning, .info]

def word : Level → String
  | .error => "error"
  | .warning => "warning"
  | .info => "info"

def ofWord? (s : String) : Option Level :=
  all.find? fun l => l.word = s

def noun : Level → String
  | .info => "info message"
  | l => l.word

/-- A number of reports of one level, in words. -/
def counted (l : Level) (count : Int) : String :=
  Text.decimal count ++ " " ++ l.noun ++ (if count = 1 then "" else "s")

@[simp] theorem ofWord?_word (l : Level) : ofWord? l.word = some l := by
  cases l <;> decide

theorem mem_all (l : Level) : l ∈ all := by
  cases l <;> decide

end Level

end Diagnostics
