import Mathlib.Data.List.Forall2
import Choreography.Animation
import Choreography.Proofs.Expression.Layout
import Choreography.Proofs.Fields.Composed

/-!
# How animations are put together

The options of an animation come from two texts: the modifiers of its directive, and the
inside of an object in the directive's expression.  **Each animation of a directive has the
fields that the modifiers write and those that the readable entries of its object write, put
one after the other** (`Directive.compile_composed`): no field twice, each where it is first
written, with the value it is last given.  If the expression is a mapping there is one
animation for each name in it, with the last object of that name; otherwise there is one.  The
triggers are those of the directive in either case.

What the fields hold is put together in the same way: no object in it has a key twice
(`Template.KeysDistinct`).
-/

namespace Choreography

open Text Literal

/-! ## Objects without repeated keys -/

/-- No object in a value, at any depth, has a key twice. -/
inductive Value.KeysDistinct : Value → Prop
  | undefined : KeysDistinct .undefined
  | null : KeysDistinct .null
  | bool (value : Bool) : KeysDistinct (.bool value)
  | number (value : Number) : KeysDistinct (.number value)
  | string (value : String) : KeysDistinct (.string value)
  | array {items : List Value} (within : ∀ item ∈ items, item.KeysDistinct) :
      KeysDistinct (.array items)
  | object {fields : List (String × Value)} (distinct : (Fields.keys fields).Nodup)
      (within : ∀ field ∈ fields, field.2.KeysDistinct) : KeysDistinct (.object fields)

/-- No object in a template, at any depth, has a key twice. -/
inductive Template.KeysDistinct : Template → Prop
  | literal {value : Value} (within : value.KeysDistinct) : KeysDistinct (.literal value)
  | array {items : List Template} (within : ∀ item ∈ items, item.KeysDistinct) :
      KeysDistinct (.array items)
  | object {fields : List (String × Template)} (distinct : (Fields.keys fields).Nodup)
      (within : ∀ field ∈ fields, field.2.KeysDistinct) : KeysDistinct (.object fields)
  | lookup (reference : Reference) : KeysDistinct (.lookup reference)
  | invoke (call : Call) : KeysDistinct (.invoke call)

namespace Grammar

variable {scope : Scope}

theorem Keyword.keysDistinct {text : List Char} {value : Value} (word : Keyword text value) :
    value.KeysDistinct := by
  cases word with
  | true => exact .bool Bool.true
  | false => exact .bool Bool.false
  | null => exact .null
  | undefined => exact .undefined

mutual

/-- **What a text denotes** has no object with a key twice. -/
theorem Denotes.keysDistinct {text : List Char} {value : Template}
    (denotes : Denotes scope text value) : value.KeysDistinct := by
  cases denotes with
  | string => exact .literal (.string _)
  | number => exact .literal (.number _)
  | keyword word => exact .literal word.keysDistinct
  | reference => exact .lookup _
  | word => exact .literal (.string _)
  | call => exact .invoke _
  | array inside => exact .array inside.keysDistinct
  | object inside =>
    refine .object (Fields.nodup_keys_ofList _) fun field here => ?_
    exact inside.keysDistinct field (Fields.mem_of_mem_ofList here)
termination_by 3 * text.length

theorem Item.keysDistinct {text : List Char} {value : Template} (item : Item scope text value) :
    value.KeysDistinct := by
  cases item with
  | mk blank denotes blank' => exact denotes.keysDistinct
termination_by 3 * text.length + 1
decreasing_by all_goals simp +arith

theorem Entry.keysDistinct {text : List Char} {field : String × Template}
    (entry : Entry scope text field) : field.2.KeysDistinct := by
  cases entry with
  | mk blank key blank' item => exact item.keysDistinct
termination_by 3 * text.length + 1
decreasing_by all_goals simp +arith

theorem Items.keysDistinct {text : List Char} {items : List Template}
    (inside : Items scope text items) : ∀ item ∈ items, item.KeysDistinct := by
  cases inside with
  | blank => exact nofun
  | last item => simpa using item.keysDistinct
  | more item later => exact List.forall_mem_cons.mpr ⟨item.keysDistinct, later.keysDistinct⟩
termination_by 3 * text.length + 2
decreasing_by
  all_goals
    subst_vars
    simp +arith

theorem Entries.keysDistinct {text : List Char} {fields : List (String × Template)}
    (inside : Entries scope text fields) : ∀ field ∈ fields, field.2.KeysDistinct := by
  cases inside with
  | blank => exact nofun
  | last entry => simpa using entry.keysDistinct
  | more entry later => exact List.forall_mem_cons.mpr ⟨entry.keysDistinct, later.keysDistinct⟩
termination_by 3 * text.length + 2
decreasing_by
  all_goals
    subst_vars
    simp +arith

end

end Grammar

theorem Modifier.keysDistinct_value (field : String) (token : Option String) :
    (value field token).KeysDistinct := by
  have coerced (text : List Char) : (coerce text).KeysDistinct := by
    rw [coerce]
    split
    · exact .number _
    · exact .string _
  have unit {text : List Char} {found : Value} (with_ : valueWithUnit? field text = some found) :
      found.KeysDistinct := by
    rw [valueWithUnit?] at with_
    split at with_
    · obtain ⟨amount, -, rfl⟩ := Option.map_eq_some_iff.mp with_
      exact .number _
    · split at with_
      · obtain ⟨amount, -, rfl⟩ := Option.map_eq_some_iff.mp with_
        exact .number _
      · cases with_
  rw [value]
  split
  · exact .undefined
  · exact .undefined
  · rename_i text _ _
    split
    · exact coerced _
    · cases found : valueWithUnit? field text with
      | none => exact coerced _
      | some measured => exact unit found

/-! ## What the texts write -/

namespace Expression

/-- The fields that the readable entries of a body write, in the order of the text and with
repetitions. -/
def writtenFields (scope : Scope) (body : Segment) : List (String × Template) :=
  (entriesOf body).filterMap fun entry => (readOption scope entry).toOption

/-- The names in the readable entries of a mapping and the insides of their objects, in the
order of the text and with repetitions. -/
def writtenBodies (text : Segment) : List (String × Segment) :=
  (entriesOf text).filterMap fun entry => (readNamed entry).toOption

/-- Whether a text is read as a mapping: it is not blank, and not one object. -/
def isMapping (text : List Char) : Bool :=
  !isBlankText text && (Segment.unwrap? ⟨text, 0⟩).isNone

variable {scope : Scope}

theorem ok_of_toOption {ε α : Type} {attempt : Except ε α} {a : α}
    (gives : attempt.toOption = some a) : attempt = .ok a := by
  cases attempt with
  | ok found => exact congrArg Except.ok (Option.some.inj gives)
  | error error => cases gives

theorem exists_of_mem_writtenFields {body : Segment} {field : String × Template}
    (written : field ∈ writtenFields scope body) :
    ∃ entry ∈ entriesOf body, readOption scope entry = .ok field := by
  obtain ⟨entry, here, gives⟩ := List.mem_filterMap.mp written
  exact ⟨entry, here, ok_of_toOption gives⟩

theorem exists_of_mem_writtenBodies {text : Segment} {named : String × Segment}
    (written : named ∈ writtenBodies text) :
    ∃ entry ∈ entriesOf text, readNamed entry = .ok named := by
  obtain ⟨entry, here, gives⟩ := List.mem_filterMap.mp written
  exact ⟨entry, here, ok_of_toOption gives⟩

theorem compileBody_composed (scope : Scope) (source : String) (body : Segment) :
    Fields.ComposedOf (writtenFields scope body) (compileBody scope source body).result := by
  simp only [compileBody, List.filterMap_map]
  exact Fields.composedOf_ofList _

/-- Every field that an entry writes holds no object with a key twice. -/
theorem keysDistinct_writtenFields {body : Segment} {field : String × Template}
    (written : field ∈ writtenFields scope body) : field.2.KeysDistinct := by
  obtain ⟨entry, -, read⟩ := exists_of_mem_writtenFields written
  obtain ⟨⟨key, value⟩, -, rest⟩ := exists_of_bind_ok read
  obtain ⟨template, inner, ends⟩ := exists_of_bind_ok rest
  cases ends
  exact (item_of_read inner).keysDistinct

/-- A mapping is compiled to the last object of each name, one compiled by itself. -/
theorem compileMapping_result (scope : Scope) (source : String) (text : Segment) :
    (compileMapping scope source text).result =
      Fields.mapValues (fun body => (compileBody scope source body).result)
        (Fields.ofList (writtenBodies text)) := by
  have each (entry : Segment) : (compileNamed scope source entry).result =
      ((readNamed entry).toOption.map fun named =>
        (named.1, (compileBody scope source named.2).result)).toList := by
    rw [compileNamed]
    cases readNamed entry <;> rfl
  rw [Fields.mapValues_ofList, compileMapping]
  refine congrArg Fields.ofList ?_
  rw [List.flatMap_map, writtenBodies, Fields.mapValues, List.map_filterMap,
    List.filterMap_eq_flatMap_toList]
  exact congrArg (fun give => (entriesOf text).flatMap give) (funext each)

/-- A text that is no mapping is compiled as a body, or to nothing. -/
theorem compile_result_of_object (scope : Scope) (source : String) {text : List Char}
    (object : isMapping text = false) :
    ∃ options, (compile scope source text).result = .bare options ∧
      Fields.ComposedOf ((Segment.unwrap? ⟨text, 0⟩).toList.flatMap (writtenFields scope))
        options := by
  rw [compile]
  cases blank : isBlankText text with
  | true =>
    have nothing : Segment.unwrap? ⟨text, 0⟩ = none := by
      refine Segment.unwrap?_eq_none ?_ 0
      rw [trimStart_eq_nil_iff.mpr blank]
      exact nofun
    rw [nothing]
    exact ⟨[], rfl, .nil⟩
  | false =>
    rw [isMapping, blank] at object
    cases unwrapped : Segment.unwrap? ⟨text, 0⟩ with
    | none =>
      rw [unwrapped] at object
      cases object
    | some body =>
      refine ⟨_, rfl, ?_⟩
      rw [Option.toList_some, List.flatMap_singleton]
      exact compileBody_composed scope source body

theorem compile_result_of_mapping (scope : Scope) (source : String) {text : List Char}
    (mapping : isMapping text = true) :
    (compile scope source text).result = .named
      (Fields.mapValues (fun body => (compileBody scope source body).result)
        (Fields.ofList (writtenBodies ⟨text, 0⟩))) := by
  rw [isMapping, Bool.and_eq_true, Bool.not_eq_true', Option.isNone_iff_eq_none] at mapping
  simp only [compile, mapping.1, mapping.2, Bool.false_eq_true, if_false, compileMapping_result]

end Expression

namespace Directive

open Expression

/-- The fields that the modifiers of a directive write, in order and with repetitions: the
triggers are taken out, and what is left is paired. -/
def sharedFields (directive : Directive) : List (String × Template) :=
  (Modifier.pairs (directive.modifiers.filter fun modifier =>
    (Trigger.ofModifier? modifier).isNone)).map Modifier.entry

theorem keysDistinct_sharedFields {directive : Directive} {field : String × Template}
    (shared : field ∈ directive.sharedFields) : field.2.KeysDistinct := by
  obtain ⟨pair, -, rfl⟩ := List.mem_map.mp shared
  exact .literal (Modifier.keysDistinct_value _ _)

/-- How an animation of a directive is put together from its name and the fields that are
written in its object. -/
structure Composition (element : ElementId) (directive : Directive) (name : Option String)
    (written : List (String × Template)) (animation : Animation) : Prop where
  name : animation.name = name
  element : animation.element = element
  triggers : animation.triggers =
    TriggerSet.ofList (directive.modifiers.filterMap Trigger.ofModifier?)
  options : Fields.ComposedOf (directive.sharedFields ++ written) animation.options
  values : ∀ field ∈ animation.options, field.2.KeysDistinct

/-- The options of the modifiers with those of an object put into them are put together from
both. -/
theorem Composition.of_composed (element : ElementId) (directive : Directive)
    (name : Option String) {written : List (String × Template)} {options : Fields Template}
    (composed : Fields.ComposedOf written options)
    (values : ∀ field ∈ written, field.2.KeysDistinct) :
    Composition element directive name written
      ⟨name, element, Fields.putAll (Fields.ofList directive.sharedFields) options,
        (TriggerSet.extract directive.modifiers).1⟩ := by
  have both := (Fields.composedOf_ofList directive.sharedFields).putAll composed
  refine ⟨rfl, rfl, rfl, both, ?_⟩
  intro field here
  rcases List.mem_append.mp (both.mem here) with shared | written
  · exact keysDistinct_sharedFields shared
  · exact values field written

/-- **The animations of a directive** are put together from what its modifiers and the objects
of its expression write: one animation, unless the expression is a mapping, and then one for
each name in it, in the order in which the names first appear, with the last object of each. -/
theorem compile_composed (scope : Scope) (element : ElementId) (label : String)
    (directive : Directive) :
    (isMapping directive.expression.toList = false ∧
      ∃ animation, (compile scope element label directive).result = [animation] ∧
        Composition element directive directive.value
          ((Segment.unwrap? ⟨directive.expression.toList, 0⟩).toList.flatMap
            (writtenFields scope)) animation) ∨
    (isMapping directive.expression.toList = true ∧
      ∃ bodies, Fields.ComposedOf (writtenBodies ⟨directive.expression.toList, 0⟩) bodies ∧
        List.Forall₂
          (fun body animation => Composition element directive (some body.1)
            (writtenFields scope body.2) animation)
          bodies (compile scope element label directive).result) := by
  cases mapping : isMapping directive.expression.toList with
  | false =>
    obtain ⟨options, result, composed⟩ := compile_result_of_object scope label mapping
    refine .inl ⟨rfl, _, ?_, .of_composed element directive directive.value composed ?_⟩
    · simp only [compile, result]
      rfl
    · intro field written
      obtain ⟨body, -, written⟩ := List.mem_flatMap.mp written
      exact keysDistinct_writtenFields written
  | true =>
    refine .inr ⟨rfl, _, Fields.composedOf_ofList _, ?_⟩
    simp only [compile, compile_result_of_mapping scope label mapping, Fields.mapValues,
      List.map_map]
    rw [List.forall₂_map_right_iff, List.forall₂_same]
    rintro ⟨name, body⟩ -
    exact .of_composed element directive (some name) (compileBody_composed scope label body)
      fun field written => keysDistinct_writtenFields written

end Directive

end Choreography
