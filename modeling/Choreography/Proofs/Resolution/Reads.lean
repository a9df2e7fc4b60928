import Choreography.Resolution

/-!
# What a resolution reads

A resolution asks a scope for two things: which names it has, since a dotted name in the
arguments of a call is a reference or a string by that, and the values of the roots of
references, those of the template and those of the arguments.  Arguments are read anew at
each resolution, but **in scopes with the same names they are the same templates**
(`Arguments.read_congr`), and then **where the roots of all references have the same values a
resolution is the same** (`Template.resolve_congr`): the same error, the same values, or the
same places left open, with the same state of the loader.
-/

namespace Choreography

namespace Scope

/-- Two scopes that have the same names. -/
def SameNames (first second : Scope) : Prop :=
  ∀ name, first.has name = second.has name

/-- Two scopes in which the roots of some references have the same values. -/
def AgreeOn (references : List Reference) (first second : Scope) : Prop :=
  ∀ reference ∈ references, first.get? reference.root = second.get? reference.root

theorem AgreeOn.subset {references fewer : List Reference} {first second : Scope}
    (agree : AgreeOn references first second) (included : fewer ⊆ references) :
    AgreeOn fewer first second :=
  fun reference here => agree reference (included here)

/-- A root with the same value in two scopes gives a reference to it the same value. -/
theorem value_congr {first second : Scope} {reference : Reference}
    (same : first.get? reference.root = second.get? reference.root) :
    reference.value first = reference.value second := by
  rw [Reference.value, Reference.value, same]

end Scope

/-! ## Reading -/

namespace Literal

variable {first second : Scope} (same : first.SameNames second) (stop : Nat)

include same

theorem nameTemplate_congr (path : String) :
    nameTemplate first path = nameTemplate second path := by
  rw [nameTemplate, nameTemplate, same]

theorem readName_congr (text : List Char) :
    readName ⟨first, stop⟩ text = readName ⟨second, stop⟩ text := by
  simp only [readName, nameTemplate_congr same]
  rfl

omit same in
/-- With one amount of fuel, two scopes let the same be read. -/
structure ReadsAlike (first second : Scope) (stop fuel : Nat) : Prop where
  value : readValue ⟨first, stop⟩ fuel = readValue ⟨second, stop⟩ fuel
  fields : readFields ⟨first, stop⟩ fuel = readFields ⟨second, stop⟩ fuel
  items : readItems ⟨first, stop⟩ fuel = readItems ⟨second, stop⟩ fuel

/-- A scope is asked where a dotted name is read, and nowhere else. -/
theorem readsAlike (fuel : Nat) : ReadsAlike first second stop fuel := by
  induction fuel with
  | zero => exact ⟨rfl, rfl, rfl⟩
  | succ fuel ih =>
    refine ⟨?_, ?_, ?_⟩ <;> funext text
    · rw [readValue, readValue, ih.fields, ih.items]
      simp only [readName_congr same]
      rfl
    · rw [readFields, readFields, ih.fields, ih.value]
      rfl
    · rw [readItems, readItems, ih.items, ih.value]
      rfl

end Literal

theorem Template.read_congr {first second : Scope} (same : first.SameNames second)
    (segment : Segment) : Template.read first segment = Template.read second segment := by
  rw [Template.read, Template.read]
  simp only [(Literal.readsAlike same _ _).value]
  rfl

/-- **Scopes with the same names let the same arguments be read.** -/
theorem Arguments.read_congr {first second : Scope} (same : first.SameNames second)
    (text : String) : Arguments.read first text = Arguments.read second text := by
  have each : Template.read first = Template.read second :=
    funext (Template.read_congr same)
  rw [Arguments.read, Arguments.read, each]

theorem Arguments.references_congr {first second : Scope} (same : first.SameNames second)
    (text : String) : Arguments.references first text = Arguments.references second text := by
  rw [Arguments.references, Arguments.references, Arguments.read_congr same]

/-! ## Values -/

namespace Template

variable {first second : Scope}

mutual

/-- A template has the same value where the roots of its references have. -/
theorem evaluate_congr (template : Template)
    (agree : Scope.AgreeOn template.references first second) :
    template.evaluate first = template.evaluate second := by
  cases template with
  | literal => rfl
  | array items => rw [evaluate, evaluate, evaluateItems_congr items agree]
  | object fields => rw [evaluate, evaluate, evaluateFields_congr fields agree]
  | lookup reference =>
    have root := agree reference List.mem_cons_self
    rw [evaluate, evaluate, Scope.has_eq_isSome_get?, Scope.has_eq_isSome_get?, root,
      Scope.value_congr root]
  | invoke => rfl

theorem evaluateItems_congr (items : List Template)
    (agree : Scope.AgreeOn (itemReferences items) first second) :
    evaluateItems first items = evaluateItems second items := by
  cases items with
  | nil => rfl
  | cons item rest =>
    rw [evaluateItems, evaluateItems,
      evaluate_congr item (agree.subset (List.subset_append_left _ _)),
      evaluateItems_congr rest (agree.subset (List.subset_append_right _ _))]

theorem evaluateFields_congr (fields : List (String × Template))
    (agree : Scope.AgreeOn (fieldReferences fields) first second) :
    evaluateFields first fields = evaluateFields second fields := by
  match fields with
  | [] => rfl
  | (name, template) :: rest =>
    rw [evaluateFields, evaluateFields,
      evaluate_congr template (agree.subset (List.subset_append_left _ _)),
      evaluateFields_congr rest (agree.subset (List.subset_append_right _ _))]

end

end Template

/-- The arguments of a call have the same values where the roots of the references in them
have; that they cannot be read, or are no values, is the same everywhere. -/
theorem Arguments.evaluate_congr {first second : Scope} (same : first.SameNames second)
    {text : String} (agree : Scope.AgreeOn (Arguments.references first text) first second) :
    Arguments.evaluate first text = Arguments.evaluate second text := by
  unfold Arguments.references at agree
  rw [Arguments.evaluate, Arguments.evaluate, ← Arguments.read_congr same]
  cases read : Arguments.read first text with
  | error => rfl
  | ok arguments =>
    rw [read] at agree
    exact Template.evaluateItems_congr arguments agree

/-! ## Resolutions -/

/-- All references that resolving fields asks a scope for: those in the fields, and those in
the arguments of the calls in them. -/
def Template.fieldSources (scope : Scope) (fields : List (String × Template)) :
    List Reference :=
  fieldReferences fields ++
    (fieldCalls fields).flatMap fun call => Arguments.references scope call.arguments

namespace Sketch

variable {first second : Scope} (source : HelperSource)

mutual

/-- A template has the same sketch where the roots of its references have the same values, and
so have the arguments of its calls. -/
theorem ofTemplate_congr (loader : Loader) (template : Template)
    (plain : Scope.AgreeOn template.references first second)
    (passed : ∀ call ∈ template.calls,
      Arguments.evaluate first call.arguments = Arguments.evaluate second call.arguments) :
    ofTemplate source first loader template = ofTemplate source second loader template := by
  cases template with
  | literal => rfl
  | array items => rw [ofTemplate, ofTemplate, ofItems_congr loader items plain passed]
  | object fields => rw [ofTemplate, ofTemplate, ofFields_congr loader fields plain passed]
  | lookup reference =>
    rw [ofTemplate, ofTemplate, Scope.value_congr (plain reference List.mem_cons_self)]
  | invoke call => rw [ofTemplate, ofTemplate, ofCall, ofCall, passed call List.mem_cons_self]

theorem ofItems_congr (loader : Loader) (items : List Template)
    (plain : Scope.AgreeOn (Template.itemReferences items) first second)
    (passed : ∀ call ∈ Template.itemCalls items,
      Arguments.evaluate first call.arguments = Arguments.evaluate second call.arguments) :
    ofItems source first loader items = ofItems source second loader items := by
  cases items with
  | nil => rfl
  | cons item rest =>
    rw [ofItems, ofItems, ofTemplate_congr loader item
      (plain.subset (List.subset_append_left _ _))
      fun call here => passed call (List.mem_append_left _ here)]
    split
    · rfl
    · rw [ofItems_congr _ rest (plain.subset (List.subset_append_right _ _))
        fun call here => passed call (List.mem_append_right _ here)]

theorem ofFields_congr (loader : Loader) (fields : List (String × Template))
    (plain : Scope.AgreeOn (Template.fieldReferences fields) first second)
    (passed : ∀ call ∈ Template.fieldCalls fields,
      Arguments.evaluate first call.arguments = Arguments.evaluate second call.arguments) :
    ofFields source first loader fields = ofFields source second loader fields := by
  match fields with
  | [] => rfl
  | (name, template) :: rest =>
    rw [ofFields, ofFields, ofTemplate_congr loader template
      (plain.subset (List.subset_append_left _ _))
      fun call here => passed call (List.mem_append_left _ here)]
    split
    · rfl
    · rw [ofFields_congr _ rest (plain.subset (List.subset_append_right _ _))
        fun call here => passed call (List.mem_append_right _ here)]

end

end Sketch

/-- **A resolution is the same in scopes with the same names that agree on all its
references.** -/
theorem Template.resolve_congr {first second : Scope} (same : first.SameNames second)
    (source : HelperSource) (loader : Loader) {options : Fields Template}
    (agree : Scope.AgreeOn (fieldSources first options) first second) :
    resolve source first loader options = resolve source second loader options := by
  have passed : ∀ call ∈ fieldCalls options,
      Arguments.evaluate first call.arguments = Arguments.evaluate second call.arguments := by
    intro call here
    refine Arguments.evaluate_congr same (agree.subset fun reference read => ?_)
    exact List.mem_append_right _ (List.mem_flatMap.mpr ⟨call, here, read⟩)
  rw [resolve, resolve, Sketch.ofFields_congr source loader options
    (agree.subset (List.subset_append_left _ _)) passed]

end Choreography
