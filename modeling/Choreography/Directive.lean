import Choreography.Text

/-!
# Directives

A directive is an attribute of an element.  Its name is a common start, then
optionally a colon and a value, then modifiers after dots; the attribute's value
is the expression.
-/

namespace Choreography

/-- A directive. -/
structure Directive where
  value : Option String
  modifiers : List String
  expression : String
deriving DecidableEq, Repr, Inhabited

namespace Directive

/-- What follows `start` in a text that starts with it. -/
def dropStart? : List Char → List Char → Option (List Char)
  | [], text => some text
  | c :: start, d :: text => if c = d then dropStart? start text else none
  | _ :: _, [] => none

/-- The modifiers in the text after the first dot; empty ones are ignored. -/
def splitModifiers (text : List Char) : List String :=
  ((Text.splitDots text).filter fun modifier => !modifier.isEmpty).map String.ofList

/-- The value part of an attribute name: nothing, or a colon and the value.  Of
the two options the outer one says whether the part is well formed. -/
def valueOf? : List Char → Option (Option String)
  | [] => some none
  | [':'] => some none
  | ':' :: value => some (some (String.ofList value))
  | _ => none

/-- The directive that an attribute is, if its name is one of a directive with
the given start. -/
def ofAttribute? (start name expression : String) : Option Directive := do
  let rest ← dropStart? start.toList name.toList
  let value ← valueOf? (rest.takeWhile (· ≠ '.'))
  some ⟨value, splitModifiers ((rest.dropWhile (· ≠ '.')).drop 1), expression⟩

/-- The label that diagnostics show: the start and the value. -/
def label (start : String) (directive : Directive) : String :=
  match directive.value with
  | some value => s!"{start}:{value}"
  | none => start

/-- Whether the expression is more than blanks. -/
def hasExpression (directive : Directive) : Bool :=
  !Text.isBlankString directive.expression

theorem dropStart?_eq_some_iff {start text rest : List Char} :
    dropStart? start text = some rest ↔ text = start ++ rest := by
  induction start generalizing text with
  | nil => simp [dropStart?, eq_comm]
  | cons c start ih =>
    cases text with
    | nil => simp [dropStart?]
    | cons d text =>
      simp only [dropStart?, List.cons_append, List.cons.injEq]
      by_cases same : c = d
      · simp [same, ih]
      · simp [same, Ne.symm same]

end Directive

end Choreography
