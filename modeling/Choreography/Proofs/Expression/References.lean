import Choreography.Proofs.Expression.Arguments
import Choreography.Proofs.Fields.Composed

/-!
# References are to names in scope

A dotted name is read as a reference only where the scope has its root, and the root of the
reference is the name that was looked up.  So **every reference in a template that is read, at
any depth, is to a name in scope** (`roots_in_scope`).

Arguments are read and evaluated in one scope, so a reference among them always has a value, and
what can go wrong with them is that they are no values or hold a call: the first one is refused
(`Template.Rooted.evaluate_answers`).
-/

namespace Choreography

open Text

/-- Every reference in a template, at any depth, has its root in scope. -/
inductive Template.Rooted (scope : Scope) : Template → Prop
  | literal (value : Value) : Rooted scope (.literal value)
  | array {items : List Template} (within : ∀ item ∈ items, item.Rooted scope) :
      Rooted scope (.array items)
  | object {fields : List (String × Template)} (within : ∀ field ∈ fields, field.2.Rooted scope) :
      Rooted scope (.object fields)
  | lookup {reference : Reference} (known : scope.has reference.root = true) :
      Rooted scope (.lookup reference)
  | invoke (call : Call) : Rooted scope (.invoke call)

/-! ## What is read -/

namespace Grammar

variable {scope : Scope}

mutual

/-- **What a text denotes** refers to names in scope only. -/
theorem Denotes.rooted {text : List Char} {value : Template} (denotes : Denotes scope text value) :
    value.Rooted scope := by
  cases denotes with
  | string => exact .literal (.string _)
  | number => exact .literal (.number _)
  | keyword => exact .literal _
  | reference dotted known =>
    -- the name that was looked up is the root of the reference
    exact .lookup (dotted.path.root_eq ▸ known)
  | word => exact .literal (.string _)
  | call => exact .invoke _
  | array inside => exact .array inside.rooted
  | object inside =>
    exact .object fun field here => inside.rooted field (Fields.mem_of_mem_ofList here)
termination_by 3 * text.length

theorem Item.rooted {text : List Char} {value : Template} (item : Item scope text value) :
    value.Rooted scope := by
  cases item with
  | mk blank denotes blank' => exact denotes.rooted
termination_by 3 * text.length + 1
decreasing_by all_goals simp +arith

theorem Entry.rooted {text : List Char} {field : String × Template}
    (entry : Entry scope text field) : field.2.Rooted scope := by
  cases entry with
  | mk blank key blank' item => exact item.rooted
termination_by 3 * text.length + 1
decreasing_by all_goals simp +arith

theorem Items.rooted {text : List Char} {items : List Template}
    (inside : Items scope text items) : ∀ item ∈ items, item.Rooted scope := by
  cases inside with
  | blank => exact nofun
  | last item => simpa using item.rooted
  | more item later => exact List.forall_mem_cons.mpr ⟨item.rooted, later.rooted⟩
termination_by 3 * text.length + 2
decreasing_by
  all_goals
    subst_vars
    simp +arith

theorem Entries.rooted {text : List Char} {fields : List (String × Template)}
    (inside : Entries scope text fields) : ∀ field ∈ fields, field.2.Rooted scope := by
  cases inside with
  | blank => exact nofun
  | last entry => simpa using entry.rooted
  | more entry later => exact List.forall_mem_cons.mpr ⟨entry.rooted, later.rooted⟩
termination_by 3 * text.length + 2
decreasing_by
  all_goals
    subst_vars
    simp +arith

end

end Grammar

/-! ## What is evaluated -/

/-- What an evaluation answers that meets some calls: the first one is refused, and where there
is none there is a value. -/
inductive EvalError.Answers {α : Type} : List Call → Except EvalError α → Prop
  | value (found : α) : Answers [] (.ok found)
  | nested (call : Call) (rest : List Call) :
      Answers (call :: rest) (.error (.nestedCall call.helper))

namespace EvalError.Answers

variable {α β : Type} {first second : List Call} {attempt : Except EvalError α}

/-- Where there is a value the evaluation goes on, and meets the calls that follow. -/
theorem bind {next : α → Except EvalError β} (early : Answers first attempt)
    (late : ∀ found, Answers second (next found)) :
    Answers (first ++ second) (attempt >>= next) := by
  cases early with
  | value found => exact late found
  | nested call rest => exact .nested call (rest ++ second)

/-- A container is built once its parts have values. -/
theorem built (answers : Answers first attempt) (build : α → β) :
    Answers first (attempt >>= fun found => .ok (build found)) := by
  have whole := answers.bind fun found => .value (build found)
  rwa [List.append_nil] at whole

theorem eq_error_iff (answers : Answers first attempt) {error : EvalError} :
    attempt = .error error ↔ ∃ call, first.head? = some call ∧ error = .nestedCall call.helper := by
  cases answers with
  | value found => simp
  | nested call rest => simp [eq_comm]

end EvalError.Answers

namespace Template

variable {scope : Scope}

mutual

/-- **Where every root is known, only a call is refused**, and of several the first one. -/
theorem Rooted.evaluate_answers {template : Template} (rooted : template.Rooted scope) :
    EvalError.Answers template.calls (template.evaluate scope) := by
  cases rooted with
  | literal value => exact .value value
  | array within => exact (evaluateItems_answers within).built Value.array
  | object within => exact (evaluateFields_answers within).built Value.object
  | lookup known =>
    rw [evaluate, if_pos known]
    exact .value _
  | invoke call => exact .nested call []
termination_by sizeOf template

theorem evaluateItems_answers {items : List Template}
    (within : ∀ item ∈ items, item.Rooted scope) :
    EvalError.Answers (itemCalls items) (evaluateItems scope items) := by
  cases items with
  | nil => exact .value []
  | cons item rest =>
    obtain ⟨first, others⟩ := List.forall_mem_cons.mp within
    exact first.evaluate_answers.bind fun value => (evaluateItems_answers others).built (value :: ·)
termination_by sizeOf items

theorem evaluateFields_answers {fields : List (String × Template)}
    (within : ∀ field ∈ fields, field.2.Rooted scope) :
    EvalError.Answers (fieldCalls fields) (evaluateFields scope fields) := by
  match fields with
  | [] => exact .value []
  | (name, template) :: rest =>
    obtain ⟨first, others⟩ := List.forall_mem_cons.mp within
    exact first.evaluate_answers.bind fun value =>
      (evaluateFields_answers others).built ((name, value) :: ·)
termination_by sizeOf fields

end

end Template

namespace Arguments

/-- Arguments are read without a reference to a name that is not in scope. -/
theorem rooted_of_read {scope : Scope} {text : String} {arguments : List Template}
    (accepted : read scope text = .ok arguments) :
    ∀ argument ∈ arguments, argument.Rooted scope :=
  (read_ok_iff_items.mp accepted).rooted

/-- **References are to names in scope.**  Whatever the text, its place and the scope:

* every reference in a template that is read, at any depth, has its root in scope;
* so no argument is refused because a name has no value: arguments have no values exactly if
  they cannot be read, and then the refusal is told, or if they hold a call, and then the first
  one is told. -/
theorem roots_in_scope (scope : Scope) :
    (∀ text offset template, Template.read scope ⟨text, offset⟩ = .ok template →
      template.Rooted scope) ∧
    (∀ text name, evaluate scope text ≠ .error (.undefinedVariable name)) ∧
    ∀ text error, evaluate scope text = .error error ↔
      (∃ refusal, read scope text = .error refusal ∧ error = .parse refusal) ∨
      ∃ arguments call, read scope text = .ok arguments ∧
        (Template.itemCalls arguments).head? = some call ∧ error = .nestedCall call.helper := by
  have failures (text : String) (error : EvalError) : evaluate scope text = .error error ↔
      (∃ refusal, read scope text = .error refusal ∧ error = .parse refusal) ∨
      ∃ arguments call, read scope text = .ok arguments ∧
        (Template.itemCalls arguments).head? = some call ∧ error = .nestedCall call.helper := by
    rw [evaluate]
    cases accepted : read scope text with
    | error refusal => simp [eq_comm]
    | ok arguments =>
      have answers := Template.evaluateItems_answers (rooted_of_read accepted)
      simp [answers.eq_error_iff]
  refine ⟨fun text offset template accepted => (item_of_read accepted).rooted, ?_, failures⟩
  intro text name undefined
  rcases (failures text _).mp undefined with ⟨refusal, -, other⟩ | ⟨arguments, call, -, -, other⟩
  · cases other
  · cases other

/-- A reference deep inside a list, beside a name that is not in scope, and arguments in which
two calls are hidden. -/
theorem roots_in_scope_deep :
    let scope : Scope := [[], [("card", .object [("x", .bool true)])]]
    let listed : Template := .array [.object [("y", .lookup ⟨"card.x"⟩)], .literal (.string "b.x")]
    Template.read scope ⟨"[{y: card.x}, b.x]".toList, 3⟩ = .ok listed ∧ listed.Rooted scope ∧
      evaluate scope "card, [f(), g()]" = .error (.nestedCall "f") := by
  intro scope listed
  -- spelled out, the texts are read by computation
  have spelled : "[{y: card.x}, b.x]".toList =
      ['[', '{', 'y', ':', ' ', 'c', 'a', 'r', 'd', '.', 'x', '}', ',', ' ', 'b', '.', 'x', ']'] :=
    by decide
  have spelledCalls : "card, [f(), g()]".toList =
      ['c', 'a', 'r', 'd', ',', ' ', '[', 'f', '(', ')', ',', ' ', 'g', '(', ')', ']'] := by
    decide
  have accepted : Template.read scope ⟨"[{y: card.x}, b.x]".toList, 3⟩ = .ok listed := by
    rw [spelled]
    rfl
  have calls : read scope "card, [f(), g()]" =
      .ok [.lookup ⟨"card"⟩, .array [.invoke ⟨"f", ""⟩, .invoke ⟨"g", ""⟩]] := by
    rw [read, spelledCalls]
    rfl
  obtain ⟨rooted, -, failures⟩ := roots_in_scope scope
  exact ⟨accepted, rooted _ 3 listed accepted,
    (failures _ _).mpr (.inr ⟨_, ⟨"f", ""⟩, calls, rfl, rfl⟩)⟩

end Arguments

end Choreography
