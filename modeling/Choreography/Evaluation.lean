import Choreography.Literal.Reader

/-!
# Evaluation

The value of a template in a scope, and the values of the arguments of a call.
Arguments are read again each time they are needed, so they always see the
present data; a call is not allowed among them.
-/

namespace Choreography

/-- Why the arguments of a call have no values. -/
inductive EvalError where
  | undefinedVariable (name : String)
  | nestedCall (helper : String)
  | parse (error : ParseError)
deriving DecidableEq, Repr

/-- The message of an evaluation error. -/
def EvalError.message : EvalError → String
  | .undefinedVariable name => s!"变量 '{name}' 未定义"
  | .nestedCall helper => s!"参数中不允许嵌套调用 '{helper}(...)'"
  | .parse error => s!"参数解析失败: {error.message}"

/-- The present value of a reference; undefined if its root is not in scope or
its path leads nowhere. -/
def Reference.value (scope : Scope) (reference : Reference) : Value :=
  ((scope.get? reference.root).bind fun root => root.path? reference.members).getD
    .undefined

namespace Template

mutual

/-- The value of a template.  A reference whose root is not in scope has none. -/
def evaluate (scope : Scope) : Template → Except EvalError Value
  | .literal value => .ok value
  | .array items => do
    let values ← evaluateItems scope items
    .ok (.array values)
  | .object fields => do
    let values ← evaluateFields scope fields
    .ok (.object values)
  | .lookup reference =>
    if scope.has reference.root then .ok (reference.value scope)
    else .error (.undefinedVariable reference.root)
  | .invoke call => .error (.nestedCall call.helper)
termination_by structural template => template

/-- The values of a list of templates. -/
def evaluateItems (scope : Scope) : List Template → Except EvalError (List Value)
  | [] => .ok []
  | item :: rest => do
    let value ← item.evaluate scope
    let values ← evaluateItems scope rest
    .ok (value :: values)
termination_by structural items => items

/-- The values of a list of fields. -/
def evaluateFields (scope : Scope) :
    List (String × Template) → Except EvalError (List (String × Value))
  | [] => .ok []
  | (name, template) :: rest => do
    let value ← template.evaluate scope
    let values ← evaluateFields scope rest
    .ok ((name, value) :: values)
termination_by structural fields => fields

end

end Template

namespace Arguments

/-- The segments of an argument text: what stands between its top-level commas.
A blank text has none, and a comma may end the list. -/
def segments (text : List Char) : List Segment :=
  if Text.isBlankText text then []
  else
    let found := (Segment.mk text 0).splitTop ','
    match found.getLast? with
    | some last => if last.isBlank then found.dropLast else found
    | none => found

/-- The arguments in a text, as templates. -/
def read (scope : Scope) (text : String) : Except ParseError (List Template) :=
  (segments text.toList).mapM (Template.read scope)

/-- The values of the arguments in a text. -/
def evaluate (scope : Scope) (text : String) : Except EvalError (List Value) :=
  match read scope text with
  | .ok arguments => Template.evaluateItems scope arguments
  | .error error => .error (.parse error)

/-- The references in an argument text; none if it cannot be read. -/
def references (scope : Scope) (text : String) : List Reference :=
  match read scope text with
  | .ok arguments => Template.itemReferences arguments
  | .error _ => []

end Arguments

end Choreography
