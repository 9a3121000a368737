import Diagnostics.Style
import Diagnostics.Text.Blank

/-!
# Rows

A row of a rendered report is a sequence of spans, each painted as a whole. A style writes the
spans one after the other; the rows that ask for it then lose the blanks at their end.
-/
namespace Diagnostics

inductive Paint where
  | none
  | emphasis
  | role (r : Role)
  deriving DecidableEq, Repr

structure Span where
  paint : Paint
  text : String
  deriving DecidableEq, Repr

/-- The spans of a row, and whether blanks at its end are dropped. -/
structure Row where
  spans : List Span
  trimmed : Bool
  deriving DecidableEq, Repr

def Span.bare (text : String) : Span := ⟨.none, text⟩

def Span.inRole (r : Role) (text : String) : Span := ⟨.role r, text⟩

def Row.ofSpans (spans : List Span) : Row := ⟨spans, false⟩

def Style.span (style : Style) (s : Span) : String :=
  match s.paint with
  | .none => s.text
  | .emphasis => style.emphasize s.text
  | .role r => style.color r s.text

def Style.spans (style : Style) (ss : List Span) : String :=
  String.join (ss.map style.span)

def Style.row (style : Style) (r : Row) : String :=
  if r.trimmed then Text.trimEnd (style.spans r.spans) else style.spans r.spans

@[simp] theorem Style.spans_nil (style : Style) : style.spans [] = "" := rfl

@[simp] theorem Style.toList_spans (style : Style) (ss : List Span) :
    (style.spans ss).toList = ss.flatMap fun s => (style.span s).toList := by
  simp [Style.spans, List.flatMap_map]

end Diagnostics
