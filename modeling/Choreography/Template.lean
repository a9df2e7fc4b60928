import Choreography.Text
import Choreography.Value

/-!
# Templates

A template is a value with places left open: references to data that may change,
and calls of helpers that may not have arrived yet.  `toValue?` gives the value
of a template without such places; `references` and `calls` list the places in
the order in which they are written.
-/

namespace Choreography

/-- A reference to reactive data: a root name, with a path of members after it
that is separated by dots. -/
structure Reference where
  source : String
deriving DecidableEq, Repr, Inhabited

namespace Reference

/-- The names in a reference. -/
def names (reference : Reference) : List String :=
  (Text.splitDots reference.source.toList).map String.ofList

/-- The name that a scope is asked for. -/
def root (reference : Reference) : String := reference.names.headD ""

/-- The path from the root's value to the one referred to. -/
def members (reference : Reference) : List String := reference.names.tail

end Reference

/-- A call of a helper, with its arguments as they were written. -/
structure Call where
  helper : String
  arguments : String
deriving DecidableEq, Repr, Inhabited

/-- A value with references and calls in it. -/
inductive Template where
  | literal (value : Value)
  | array (items : List Template)
  | object (fields : List (String × Template))
  | lookup (reference : Reference)
  | invoke (call : Call)
deriving Repr, Inhabited

namespace Template

mutual

/-- Whether a template has neither references nor calls. -/
def isConcrete : Template → Bool
  | .literal _ => true
  | .array items => areConcrete items
  | .object fields => fieldsAreConcrete fields
  | .lookup _ => false
  | .invoke _ => false
termination_by structural template => template

/-- Whether all of a list of templates are concrete. -/
def areConcrete : List Template → Bool
  | [] => true
  | item :: rest => item.isConcrete && areConcrete rest
termination_by structural items => items

/-- Whether all of a list of fields are concrete. -/
def fieldsAreConcrete : List (String × Template) → Bool
  | [] => true
  | (_, template) :: rest => template.isConcrete && fieldsAreConcrete rest
termination_by structural fields => fields

end

mutual

/-- The references in a template, in order and with repetitions. -/
def references : Template → List Reference
  | .literal _ => []
  | .array items => itemReferences items
  | .object fields => fieldReferences fields
  | .lookup reference => [reference]
  | .invoke _ => []
termination_by structural template => template

/-- The references in a list of templates. -/
def itemReferences : List Template → List Reference
  | [] => []
  | item :: rest => item.references ++ itemReferences rest
termination_by structural items => items

/-- The references in a list of fields. -/
def fieldReferences : List (String × Template) → List Reference
  | [] => []
  | (_, template) :: rest => template.references ++ fieldReferences rest
termination_by structural fields => fields

end

mutual

/-- The calls in a template, in order and with repetitions. -/
def calls : Template → List Call
  | .literal _ => []
  | .array items => itemCalls items
  | .object fields => fieldCalls fields
  | .lookup _ => []
  | .invoke call => [call]
termination_by structural template => template

/-- The calls in a list of templates. -/
def itemCalls : List Template → List Call
  | [] => []
  | item :: rest => item.calls ++ itemCalls rest
termination_by structural items => items

/-- The calls in a list of fields. -/
def fieldCalls : List (String × Template) → List Call
  | [] => []
  | (_, template) :: rest => template.calls ++ fieldCalls rest
termination_by structural fields => fields

end

mutual

/-- The value of a template that has neither references nor calls. -/
def toValue? : Template → Option Value
  | .literal value => some value
  | .array items => (toValues? items).map .array
  | .object fields => (toFields? fields).map .object
  | .lookup _ => none
  | .invoke _ => none
termination_by structural template => template

/-- The values of a list of concrete templates. -/
def toValues? : List Template → Option (List Value)
  | [] => some []
  | item :: rest =>
    match item.toValue?, toValues? rest with
    | some value, some values => some (value :: values)
    | _, _ => none
termination_by structural items => items

/-- The values of a list of concrete fields. -/
def toFields? : List (String × Template) → Option (List (String × Value))
  | [] => some []
  | (name, template) :: rest =>
    match template.toValue?, toFields? rest with
    | some value, some fields => some ((name, value) :: fields)
    | _, _ => none
termination_by structural fields => fields

end

/-! ## Small laws -/

mutual

/-- A template is concrete exactly if it has a value. -/
theorem isSome_toValue? (template : Template) :
    template.toValue?.isSome = template.isConcrete := by
  cases template with
  | literal => rfl
  | array items => simp [toValue?, isConcrete, isSome_toValues? items]
  | object fields => simp [toValue?, isConcrete, isSome_toFields? fields]
  | lookup => rfl
  | invoke => rfl

theorem isSome_toValues? (items : List Template) :
    (toValues? items).isSome = areConcrete items := by
  cases items with
  | nil => rfl
  | cons item rest =>
    rw [areConcrete, ← isSome_toValue? item, ← isSome_toValues? rest, toValues?]
    cases item.toValue? <;> cases toValues? rest <;> rfl

theorem isSome_toFields? (fields : List (String × Template)) :
    (toFields? fields).isSome = fieldsAreConcrete fields := by
  match fields with
  | [] => rfl
  | (name, template) :: rest =>
    rw [fieldsAreConcrete, ← isSome_toValue? template, ← isSome_toFields? rest,
      toFields?]
    cases template.toValue? <;> cases toFields? rest <;> rfl

end

end Template

end Choreography
