import Choreography.Proofs.Resolution.Waiting

/-!
# What calls are answered with

The value of a template in a scope, told from one helper for each name: every call in it is
answered by the helper of its name, applied to the values that the arguments have in the
scope.  **A sketch of a template comes to that value** (`Sketch.toOption_settleFields`): the
places that were open when it was made are filled by the same helpers as the others.
-/

namespace Choreography

/-- The value of a call, if its arguments have values and its helper is there. -/
def Call.answer? (supply : String → Option Helper) (scope : Scope) (call : Call) :
    Option Value := do
  let arguments ← (Arguments.evaluate scope call.arguments).toOption
  let helper ← supply call.helper
  some (helper arguments)

namespace Template

mutual

/-- The value of a template, if all of its calls have one. -/
def answer? (supply : String → Option Helper) (scope : Scope) : Template → Option Value
  | .literal value => some value
  | .array items => (itemAnswers? supply scope items).map .array
  | .object fields => (fieldAnswers? supply scope fields).map .object
  | .lookup reference => some (reference.value scope)
  | .invoke call => call.answer? supply scope
termination_by structural template => template

/-- The values of a list of templates. -/
def itemAnswers? (supply : String → Option Helper) (scope : Scope) :
    List Template → Option (List Value)
  | [] => some []
  | item :: rest => do
    let value ← item.answer? supply scope
    let values ← itemAnswers? supply scope rest
    some (value :: values)
termination_by structural items => items

/-- The values of a list of fields. -/
def fieldAnswers? (supply : String → Option Helper) (scope : Scope) :
    List (String × Template) → Option (List (String × Value))
  | [] => some []
  | (name, template) :: rest => do
    let value ← template.answer? supply scope
    let values ← fieldAnswers? supply scope rest
    some ((name, value) :: values)
termination_by structural fields => fields

end

variable {supply : String → Option Helper} {scope : Scope}

/-! ## Calls without a helper -/

theorem answer?_call_eq_none {call : Call} (absent : supply call.helper = none) :
    call.answer? supply scope = none := by
  rw [Call.answer?, absent]
  cases (Arguments.evaluate scope call.arguments).toOption <;> rfl

mutual

/-- A template has no value if the helper of one of its calls is not there. -/
theorem answer?_eq_none {name : String} (absent : supply name = none) (template : Template)
    (called : name ∈ template.helpers) : template.answer? supply scope = none := by
  cases template with
  | literal => cases called
  | lookup => cases called
  | invoke call =>
    rw [helpers_invoke, List.mem_singleton] at called
    exact answer?_call_eq_none (called ▸ absent)
  | array items => rw [answer?, itemAnswers?_eq_none absent items called, Option.map_none]
  | object fields => rw [answer?, fieldAnswers?_eq_none absent fields called, Option.map_none]

theorem itemAnswers?_eq_none {name : String} (absent : supply name = none)
    (items : List Template) (called : name ∈ itemHelpers items) :
    itemAnswers? supply scope items = none := by
  cases items with
  | nil => cases called
  | cons item rest =>
    rw [itemHelpers_cons] at called
    rw [itemAnswers?]
    rcases List.mem_append.mp called with first | later
    · rw [answer?_eq_none absent item first, Option.bind_eq_bind, Option.bind_none]
    · rw [itemAnswers?_eq_none absent rest later]
      cases item.answer? supply scope <;> rfl

theorem fieldAnswers?_eq_none {name : String} (absent : supply name = none)
    (fields : List (String × Template)) (called : name ∈ fieldHelpers fields) :
    fieldAnswers? supply scope fields = none := by
  match fields with
  | [] => cases called
  | (key, template) :: rest =>
    rw [fieldHelpers_cons] at called
    rw [fieldAnswers?]
    rcases List.mem_append.mp called with first | later
    · rw [answer?_eq_none absent template first, Option.bind_eq_bind, Option.bind_none]
    · rw [fieldAnswers?_eq_none absent rest later]
      cases template.answer? supply scope <;> rfl

end

end Template

/-! ## Sketches come to the value of their template -/

namespace Sketch

variable {supply : String → Option Helper} {source : HelperSource} {scope : Scope}

theorem toOption_settleCall (supply : String → Option Helper) (call : WaitingCall) :
    (settleCall supply call).toOption =
      (supply call.helper).map fun helper => helper call.arguments := by
  rw [settleCall]
  cases supply call.helper <;> rfl

theorem toOption_settle_ofCall {loader later : Loader} {call : Call} {sketch : Sketch}
    (sketched : ofCall source scope loader call = (later, .ok sketch))
    (supplies : Supplies supply later) :
    (sketch.settle supply).toOption = call.answer? supply scope := by
  obtain ⟨arguments, evaluated, ⟨helper, demanded, rfl⟩ | ⟨arrival, -, -, rfl⟩⟩ :=
    exists_of_ofCall sketched
  all_goals rw [Call.answer?, evaluated]
  · -- the helper is here, so it is the one that is supplied
    have here := supplies _ _ (Loader.arrival?_demand demanded) rfl
    cases given : supply call.helper with
    | none => rw [given] at here; cases here
    | some other =>
      rw [given] at here
      cases here
      rfl
  · rw [settle, toOption_settleCall]
    cases supply call.helper <;> rfl

theorem toOption_bind_ok {ε α β : Type} (attempt : Except ε α) (next : α → β) :
    (do let value ← attempt; Except.ok (next value) : Except ε β).toOption =
      attempt.toOption.map next := by
  cases attempt <;> rfl

theorem toOption_bind_bind_ok {ε α β γ : Type} (first : Except ε α) (second : Except ε β)
    (both : α → β → γ) :
    (do
      let value ← first
      let values ← second
      Except.ok (both value values) : Except ε γ).toOption =
    (do
      let value ← first.toOption
      let values ← second.toOption
      some (both value values)) := by
  cases first <;> cases second <;> rfl

mutual

theorem toOption_settle {loader later : Loader} {template : Template} {sketch : Sketch}
    (sketched : ofTemplate source scope loader template = (later, .ok sketch))
    (supplies : Supplies supply later) :
    (sketch.settle supply).toOption = template.answer? supply scope := by
  cases template with
  | literal => cases sketched; rfl
  | lookup => cases sketched; rfl
  | invoke call => exact toOption_settle_ofCall sketched supplies
  | array items =>
    obtain ⟨sketches, inner, rfl⟩ := exists_of_ofArray sketched
    rw [settle, toOption_bind_ok, toOption_settleItems inner supplies]
    rfl
  | object fields =>
    obtain ⟨sketches, inner, rfl⟩ := exists_of_ofObject sketched
    rw [settle, toOption_bind_ok, toOption_settleFields inner supplies]
    rfl

theorem toOption_settleItems {loader later : Loader} {items : List Template}
    {sketches : List Sketch}
    (sketched : ofItems source scope loader items = (later, .ok sketches))
    (supplies : Supplies supply later) :
    (settleItems supply sketches).toOption = Template.itemAnswers? supply scope items := by
  cases items with
  | nil => cases sketched; rfl
  | cons item rest =>
    obtain ⟨between, sketch, others, first, second, grows, rfl⟩ := exists_of_ofItems sketched
    rw [settleItems, toOption_bind_bind_ok,
      toOption_settle first (supplies.of_precedes grows.precedes),
      toOption_settleItems second supplies]
    rfl

/-- **Options come to the values of their template**, if a sketch of it was made. -/
theorem toOption_settleFields {loader later : Loader} {fields : List (String × Template)}
    {sketches : List (String × Sketch)}
    (sketched : ofFields source scope loader fields = (later, .ok sketches))
    (supplies : Supplies supply later) :
    (settleFields supply sketches).toOption = Template.fieldAnswers? supply scope fields := by
  match fields with
  | [] => cases sketched; rfl
  | (name, template) :: rest =>
    obtain ⟨between, sketch, others, first, second, grows, rfl⟩ := exists_of_ofFields sketched
    rw [settleFields, toOption_bind_bind_ok,
      toOption_settle first (supplies.of_precedes grows.precedes),
      toOption_settleFields second supplies]
    rfl

end

end Sketch

end Choreography
