import Choreography.Proofs.Resolution.Answers

/-!
# Filling a template

Five recursions go through a template: one asks whether it is concrete, two list its references
and its calls, one gives its value, and one evaluates it.  A sixth one sketches it, and what the
sketch knows is filled in at its place (`filled`), while the arrays and objects around it stay
(`shape`).

**They agree on every template** (`traversals_agree`).  A template is concrete exactly if nothing
is listed, and exactly if it has a value, and then it is evaluated to that value.  Where every
helper is here, filling gives a concrete template of the same shape, unless the arguments of a
call have no values: then it fails with the first such call.
-/

namespace Choreography

namespace Template

/-! ## Templates without open places -/

mutual

/-- A template is concrete exactly if neither a reference nor a call is listed for it. -/
theorem isConcrete_iff (template : Template) :
    template.isConcrete = true ↔ template.references = [] ∧ template.calls = [] := by
  cases template with
  | literal => exact iff_of_true rfl ⟨rfl, rfl⟩
  | lookup => exact iff_of_false nofun nofun
  | invoke => exact iff_of_false nofun nofun
  | array items => exact areConcrete_iff items
  | object fields => exact fieldsAreConcrete_iff fields

theorem areConcrete_iff (items : List Template) :
    areConcrete items = true ↔ itemReferences items = [] ∧ itemCalls items = [] := by
  cases items with
  | nil => exact iff_of_true rfl ⟨rfl, rfl⟩
  | cons item rest =>
    rw [areConcrete, Bool.and_eq_true, isConcrete_iff item, areConcrete_iff rest, itemReferences,
      itemCalls, List.append_eq_nil_iff, List.append_eq_nil_iff]
    exact and_and_and_comm

theorem fieldsAreConcrete_iff (fields : List (String × Template)) :
    fieldsAreConcrete fields = true ↔ fieldReferences fields = [] ∧ fieldCalls fields = [] := by
  match fields with
  | [] => exact iff_of_true rfl ⟨rfl, rfl⟩
  | (name, template) :: rest =>
    rw [fieldsAreConcrete, Bool.and_eq_true, isConcrete_iff template, fieldsAreConcrete_iff rest,
      fieldReferences, fieldCalls, List.append_eq_nil_iff, List.append_eq_nil_iff]
    exact and_and_and_comm

end

mutual

/-- A template that has a value is evaluated to it in every scope. -/
theorem evaluate_of_toValue? {template : Template} {value : Value}
    (known : template.toValue? = some value) (scope : Scope) :
    template.evaluate scope = .ok value := by
  cases template with
  | literal =>
    cases known
    rfl
  | lookup => cases known
  | invoke => cases known
  | array items =>
    obtain ⟨values, each, rfl⟩ := Option.map_eq_some_iff.mp known
    rw [evaluate, evaluateItems_of_toValues? each scope]
    rfl
  | object fields =>
    obtain ⟨values, each, rfl⟩ := Option.map_eq_some_iff.mp known
    rw [evaluate, evaluateFields_of_toFields? each scope]
    rfl

theorem evaluateItems_of_toValues? {items : List Template} {values : List Value}
    (known : toValues? items = some values) (scope : Scope) :
    evaluateItems scope items = .ok values := by
  cases items with
  | nil =>
    cases known
    rfl
  | cons item rest =>
    rw [toValues?] at known
    split at known
    · rename_i first others
      cases known
      rw [evaluateItems, evaluate_of_toValue? first scope,
        evaluateItems_of_toValues? others scope]
      rfl
    · cases known

theorem evaluateFields_of_toFields? {fields : List (String × Template)}
    {values : List (String × Value)} (known : toFields? fields = some values) (scope : Scope) :
    evaluateFields scope fields = .ok values := by
  match fields with
  | [] =>
    cases known
    rfl
  | (name, template) :: rest =>
    rw [toFields?] at known
    split at known
    · rename_i first others
      cases known
      rw [evaluateFields, evaluate_of_toValue? first scope,
        evaluateFields_of_toFields? others scope]
      rfl
    · cases known

end

/-! ## Shapes -/

/-- The arrays of a template with the number of their items, and its objects with the names of
their fields; everything else is a place. -/
inductive Shape where
  | place
  | array (items : List Shape)
  | object (fields : List (String × Shape))

mutual

/-- The shape of a template. -/
def shape : Template → Shape
  | .literal _ => .place
  | .array items => .array (itemShapes items)
  | .object fields => .object (fieldShapes fields)
  | .lookup _ => .place
  | .invoke _ => .place
termination_by structural template => template

/-- The shapes of a list of templates. -/
def itemShapes : List Template → List Shape
  | [] => []
  | item :: rest => item.shape :: itemShapes rest
termination_by structural items => items

/-- The shapes of a list of fields, each under its name. -/
def fieldShapes : List (String × Template) → List (String × Shape)
  | [] => []
  | (name, template) :: rest => (name, template.shape) :: fieldShapes rest
termination_by structural fields => fields

end

mutual

/-- A template with what a sketch of it knows filled in; an open place stays as it is written. -/
def filled : Template → Sketch → Template
  | _, .known value => .literal value
  | .array items, .array sketches => .array (itemsFilled items sketches)
  | .object fields, .object sketches => .object (fieldsFilled fields sketches)
  | template, _ => template
termination_by structural template => template

/-- A list of templates with what a list of sketches knows filled in. -/
def itemsFilled : List Template → List Sketch → List Template
  | item :: rest, sketch :: sketches => item.filled sketch :: itemsFilled rest sketches
  | items, _ => items
termination_by structural items => items

/-- A list of fields with what a list of sketches knows filled in. -/
def fieldsFilled : List (String × Template) → List (String × Sketch) → List (String × Template)
  | (name, template) :: rest, (_, sketch) :: sketches =>
    (name, template.filled sketch) :: fieldsFilled rest sketches
  | fields, _ => fields
termination_by structural fields => fields

end

end Template

/-! ## Helpers that are here -/

namespace Loader

variable {source : HelperSource} {loader : Loader} {name : String} {helper : Helper}

/-- The helper of a name, if it is here as soon as it is asked for. -/
def helper? (source : HelperSource) (loader : Loader) (name : String) : Option Helper :=
  match (loader.demand source name).2 with
  | some (.ready helper) => some helper
  | _ => none

theorem helper?_eq_some_iff :
    loader.helper? source name = some helper ↔
      (loader.demand source name).2 = some (.ready helper) := by
  rw [helper?]
  split
  · rename_i found
    rw [found, Option.some.injEq, Option.some.injEq, Arrival.ready.injEq]
  · rename_i other
    exact iff_of_false nofun (other helper)

/-- A later loader in which every helper that was here is here. -/
def Keeps (source : HelperSource) (loader later : Loader) : Prop :=
  ∀ name helper, loader.helper? source name = some helper →
    later.helper? source name = some helper

/-- A helper that is here stays here while others are asked for. -/
theorem demand_keeps (source : HelperSource) (loader : Loader) (other : String) :
    loader.Keeps source (loader.demand source other).1 := by
  intro name helper here
  rw [helper?_eq_some_iff] at here ⊢
  by_cases same : other = name
  · -- asked for a second time it stands where the first time left it
    subst same
    rw [demand_of_arrival? (arrival?_demand (Prod.ext rfl here))]
  · rw [snd_demand_congr (arrival?_demand_of_ne source loader same), here]

end Loader

/-- Asking for helpers takes away none that is here. -/
theorem Sketch.demands_keeps (source : HelperSource) : Demands source (Loader.Keeps source) where
  refl _ _ _ here := here
  trans first second name helper here := second name helper (first name helper here)
  demand := Loader.demand_keeps source

/-! ## Filling -/

/-- The fault of a call whose arguments have no values. -/
def Call.fault? (scope : Scope) (call : Call) : Option ResolveError :=
  match Arguments.evaluate scope call.arguments with
  | .error error => some (.arguments call.helper error)
  | .ok _ => none

/-- The fault of the first call, in order, whose arguments have no values. -/
def Call.firstFault? (scope : Scope) (calls : List Call) : Option ResolveError :=
  calls.findSome? (Call.fault? scope)

namespace Call

variable {scope : Scope} {calls : List Call}

theorem fault?_eq_none_iff {call : Call} : call.fault? scope = none ↔
    ∃ arguments, Arguments.evaluate scope call.arguments = .ok arguments := by
  rw [fault?]
  cases Arguments.evaluate scope call.arguments with
  | error error => exact iff_of_false nofun nofun
  | ok arguments => exact iff_of_true rfl ⟨arguments, rfl⟩

theorem firstFault?_eq_none_iff : firstFault? scope calls = none ↔
    ∀ call ∈ calls, ∃ arguments, Arguments.evaluate scope call.arguments = .ok arguments := by
  simp only [firstFault?, List.findSome?_eq_none_iff, fault?_eq_none_iff]

theorem firstFault?_append_of_some {error : ResolveError}
    (first : firstFault? scope calls = some error) (more : List Call) :
    firstFault? scope (calls ++ more) = some error := by
  rw [firstFault?] at first ⊢
  rw [List.findSome?_append, first, Option.some_or]

theorem firstFault?_append_of_none (sound : firstFault? scope calls = none) (more : List Call) :
    firstFault? scope (calls ++ more) = firstFault? scope more := by
  rw [firstFault?] at sound ⊢
  rw [List.findSome?_append, sound, Option.none_or, firstFault?]

end Call

namespace Template

mutual

/-- A sketch of a template with nothing open: a reference is filled with its value, and a call
with what the helper of its name gives. -/
inductive Fills (supply : String → Option Helper) (scope : Scope) : Template → Sketch → Prop
  | literal (value : Value) : Fills supply scope (.literal value) (.known value)
  | lookup (reference : Reference) :
      Fills supply scope (.lookup reference) (.known (reference.value scope))
  | invoke {call : Call} {value : Value} (answered : call.answer? supply scope = some value) :
      Fills supply scope (.invoke call) (.known value)
  | array {items : List Template} {sketches : List Sketch}
      (each : ItemsFill supply scope items sketches) :
      Fills supply scope (.array items) (.array sketches)
  | object {fields : List (String × Template)} {sketches : List (String × Sketch)}
      (each : FieldsFill supply scope fields sketches) :
      Fills supply scope (.object fields) (.object sketches)

/-- Sketches of a list of templates with nothing open, one after the other. -/
inductive ItemsFill (supply : String → Option Helper) (scope : Scope) :
    List Template → List Sketch → Prop
  | nil : ItemsFill supply scope [] []
  | cons {item : Template} {sketch : Sketch} {rest : List Template} {sketches : List Sketch}
      (first : Fills supply scope item sketch) (others : ItemsFill supply scope rest sketches) :
      ItemsFill supply scope (item :: rest) (sketch :: sketches)

/-- Sketches of a list of fields with nothing open, each under its name. -/
inductive FieldsFill (supply : String → Option Helper) (scope : Scope) :
    List (String × Template) → List (String × Sketch) → Prop
  | nil : FieldsFill supply scope [] []
  | cons {name : String} {template : Template} {sketch : Sketch}
      {rest : List (String × Template)} {sketches : List (String × Sketch)}
      (first : Fills supply scope template sketch)
      (others : FieldsFill supply scope rest sketches) :
      FieldsFill supply scope ((name, template) :: rest) ((name, sketch) :: sketches)

end

variable {supply : String → Option Helper} {scope : Scope}

/-! ### What is filled in -/

mutual

/-- Filling keeps the arrays and the objects as they are. -/
theorem Fills.shape_eq {template : Template} {sketch : Sketch}
    (fills : Fills supply scope template sketch) :
    (template.filled sketch).shape = template.shape := by
  cases fills with
  | literal => rfl
  | lookup => rfl
  | invoke => rfl
  | array each => exact congrArg Shape.array each.shapes_eq
  | object each => exact congrArg Shape.object each.shapes_eq

theorem ItemsFill.shapes_eq {items : List Template} {sketches : List Sketch}
    (fills : ItemsFill supply scope items sketches) :
    itemShapes (itemsFilled items sketches) = itemShapes items := by
  cases fills with
  | nil => rfl
  | cons first others =>
    rw [itemsFilled, itemShapes, itemShapes, first.shape_eq, others.shapes_eq]

theorem FieldsFill.shapes_eq {fields : List (String × Template)}
    {sketches : List (String × Sketch)} (fills : FieldsFill supply scope fields sketches) :
    fieldShapes (fieldsFilled fields sketches) = fieldShapes fields := by
  cases fills with
  | nil => rfl
  | cons first others =>
    rw [fieldsFilled, fieldShapes, fieldShapes, first.shape_eq, others.shapes_eq]

end

mutual

/-- What is filled has a value: the one that the template has with the helpers that are here, and
the one that the sketch is finished with. -/
theorem Fills.exists_value {template : Template} {sketch : Sketch}
    (fills : Fills supply scope template sketch) :
    ∃ value, (template.filled sketch).toValue? = some value ∧
      template.answer? supply scope = some value ∧ ∀ field, sketch.finish field = .ok value := by
  cases fills with
  | literal value => exact ⟨value, rfl, rfl, fun _ => rfl⟩
  | lookup => exact ⟨_, rfl, rfl, fun _ => rfl⟩
  | invoke answered => exact ⟨_, rfl, answered, fun _ => rfl⟩
  | array each =>
    obtain ⟨values, known, answers, finished⟩ := each.exists_values
    refine ⟨.array values, ?_, ?_, fun field => ?_⟩
    · rw [filled, toValue?, known]
      rfl
    · rw [answer?, answers]
      rfl
    · rw [Sketch.finish, finished]
      rfl
  | object each =>
    obtain ⟨values, known, answers, finished⟩ := each.exists_values
    refine ⟨.object values, ?_, ?_, fun field => ?_⟩
    · rw [filled, toValue?, known]
      rfl
    · rw [answer?, answers]
      rfl
    · rw [Sketch.finish, finished]
      rfl

theorem ItemsFill.exists_values {items : List Template} {sketches : List Sketch}
    (fills : ItemsFill supply scope items sketches) :
    ∃ values, toValues? (itemsFilled items sketches) = some values ∧
      itemAnswers? supply scope items = some values ∧
      ∀ field, Sketch.finishItems field sketches = .ok values := by
  cases fills with
  | nil => exact ⟨[], rfl, rfl, fun _ => rfl⟩
  | cons first others =>
    obtain ⟨value, known, answer, finished⟩ := first.exists_value
    obtain ⟨values, knowns, answers, finisheds⟩ := others.exists_values
    refine ⟨value :: values, ?_, ?_, fun field => ?_⟩
    · rw [itemsFilled, toValues?, known, knowns]
    · rw [itemAnswers?, answer, answers]
      rfl
    · rw [Sketch.finishItems, finished, finisheds]
      rfl

theorem FieldsFill.exists_values {fields : List (String × Template)}
    {sketches : List (String × Sketch)} (fills : FieldsFill supply scope fields sketches) :
    ∃ values, toFields? (fieldsFilled fields sketches) = some values ∧
      fieldAnswers? supply scope fields = some values ∧
      ∀ field, Sketch.finishFields field sketches = .ok values := by
  cases fills with
  | nil => exact ⟨[], rfl, rfl, fun _ => rfl⟩
  | @cons name _ _ _ _ first others =>
    obtain ⟨value, known, answer, finished⟩ := first.exists_value
    obtain ⟨values, knowns, answers, finisheds⟩ := others.exists_values
    refine ⟨(name, value) :: values, ?_, ?_, fun field => ?_⟩
    · rw [fieldsFilled, toFields?, known, knowns]
    · rw [fieldAnswers?, answer, answers]
      rfl
    · rw [Sketch.finishFields, finished, finisheds]
      rfl

end

end Template

/-! ### Filling a template -/

namespace Sketch

/-- The helpers of some calls are here, and are those of a supply. -/
def Provides (supply : String → Option Helper) (source : HelperSource) (loader : Loader)
    (calls : List Call) : Prop :=
  ∀ call ∈ calls, ∃ helper, supply call.helper = some helper ∧
    loader.helper? source call.helper = some helper

/-- What making some calls in order comes to: the first fault among them, or something that is
filled if there is none. -/
inductive ComesTo {α : Type} (scope : Scope) (calls : List Call) (fills : α → Prop) :
    Except ResolveError α → Prop
  | fault {error : ResolveError} (first : Call.firstFault? scope calls = some error) :
      ComesTo scope calls fills (.error error)
  | done {result : α} (sound : Call.firstFault? scope calls = none) (sketched : fills result) :
      ComesTo scope calls fills (.ok result)

variable {supply : String → Option Helper} {source : HelperSource} (scope : Scope)
  {loader : Loader}

/-- The helpers of later calls are still here when the earlier ones have been asked for. -/
theorem Provides.append {later : Loader} {first second : List Call}
    (provides : Provides supply source loader (first ++ second))
    (keeps : loader.Keeps source later) :
    Provides supply source loader first ∧ Provides supply source later second := by
  refine ⟨fun call here => provides call (List.mem_append_left _ here), fun call here => ?_⟩
  obtain ⟨helper, supplied, given⟩ := provides call (List.mem_append_right _ here)
  exact ⟨helper, supplied, keeps _ _ given⟩

theorem ofCall_comesTo {call : Call} (provides : Provides supply source loader [call]) :
    ComesTo scope [call] (Template.Fills supply scope (.invoke call))
      (ofCall source scope loader call).2 := by
  obtain ⟨helper, supplied, given⟩ := provides call (List.mem_singleton.mpr rfl)
  have demanded : loader.demand source call.helper = (_, some (.ready helper)) :=
    Prod.ext rfl (Loader.helper?_eq_some_iff.mp given)
  rw [ofCall]
  cases evaluated : Arguments.evaluate scope call.arguments with
  | error error =>
    refine .fault ?_
    rw [Call.firstFault?, List.findSome?_singleton, Call.fault?, evaluated]
  | ok arguments =>
    rw [demanded]
    refine .done ?_ (.invoke ?_)
    · rw [Call.firstFault?, List.findSome?_singleton, Call.fault?, evaluated]
    · rw [Call.answer?, evaluated, supplied]
      rfl

mutual

/-- **Where its helpers are here a template is filled**, unless a call is faulty. -/
theorem ofTemplate_comesTo (loader : Loader) (template : Template)
    (provides : Provides supply source loader template.calls) :
    ComesTo scope template.calls (template.Fills supply scope)
      (ofTemplate source scope loader template).2 := by
  cases template with
  | literal value => exact .done rfl (.literal value)
  | lookup reference => exact .done rfl (.lookup reference)
  | invoke call => exact ofCall_comesTo scope provides
  | array items =>
    have inner := ofItems_comesTo loader items provides
    rcases sketched : ofItems source scope loader items with ⟨later, outcome⟩
    rw [sketched] at inner
    rw [ofTemplate, sketched]
    cases inner with
    | fault first => exact .fault first
    | done sound each => exact .done sound (.array each)
  | object fields =>
    have inner := ofFields_comesTo loader fields provides
    rcases sketched : ofFields source scope loader fields with ⟨later, outcome⟩
    rw [sketched] at inner
    rw [ofTemplate, sketched]
    cases inner with
    | fault first => exact .fault first
    | done sound each => exact .done sound (.object each)

theorem ofItems_comesTo (loader : Loader) (items : List Template)
    (provides : Provides supply source loader (Template.itemCalls items)) :
    ComesTo scope (Template.itemCalls items) (Template.ItemsFill supply scope items)
      (ofItems source scope loader items).2 := by
  cases items with
  | nil => exact .done rfl .nil
  | cons item rest =>
    have keeps : loader.Keeps source (ofTemplate source scope loader item).1 :=
      ofTemplate_relates (demands_keeps source) loader item
    obtain ⟨here, there⟩ := provides.append keeps
    have head := ofTemplate_comesTo loader item here
    rcases sketched : ofTemplate source scope loader item with ⟨between, outcome⟩
    rw [sketched] at head there
    rw [ofItems, sketched]
    cases head with
    | fault first => exact .fault (Call.firstFault?_append_of_some first _)
    | done sound fills =>
      -- the others are asked for where the first one left the loader
      have tail := ofItems_comesTo between rest there
      rcases others : ofItems source scope between rest with ⟨later, outcomes⟩
      rw [others] at tail
      simp only [others]
      cases tail with
      | fault first => exact .fault ((Call.firstFault?_append_of_none sound _).trans first)
      | done sounds each =>
        exact .done ((Call.firstFault?_append_of_none sound _).trans sounds) (.cons fills each)

theorem ofFields_comesTo (loader : Loader) (fields : List (String × Template))
    (provides : Provides supply source loader (Template.fieldCalls fields)) :
    ComesTo scope (Template.fieldCalls fields) (Template.FieldsFill supply scope fields)
      (ofFields source scope loader fields).2 := by
  match fields with
  | [] => exact .done rfl .nil
  | (name, template) :: rest =>
    have keeps : loader.Keeps source (ofTemplate source scope loader template).1 :=
      ofTemplate_relates (demands_keeps source) loader template
    obtain ⟨here, there⟩ := provides.append keeps
    have head := ofTemplate_comesTo loader template here
    rcases sketched : ofTemplate source scope loader template with ⟨between, outcome⟩
    rw [sketched] at head there
    rw [ofFields, sketched]
    cases head with
    | fault first => exact .fault (Call.firstFault?_append_of_some first _)
    | done sound fills =>
      have tail := ofFields_comesTo between rest there
      rcases others : ofFields source scope between rest with ⟨later, outcomes⟩
      rw [others] at tail
      simp only [others]
      cases tail with
      | fault first => exact .fault ((Call.firstFault?_append_of_none sound _).trans first)
      | done sounds each =>
        exact .done ((Call.firstFault?_append_of_none sound _).trans sounds) (.cons fills each)

end

section

variable {template : Template}
  (here : ∀ call ∈ template.calls, (loader.helper? source call.helper).isSome)

include here

theorem provides_of_isSome :
    Provides (loader.helper? source) source loader template.calls := by
  intro call called
  obtain ⟨helper, given⟩ := Option.isSome_iff_exists.mp (here call called)
  exact ⟨helper, given, given⟩

/-- Nothing stays open in a template whose helpers are here and whose calls have arguments. -/
theorem exists_fills (valued : ∀ call ∈ template.calls,
    ∃ arguments, Arguments.evaluate scope call.arguments = .ok arguments) :
    ∃ sketch, (ofTemplate source scope loader template).2 = .ok sketch ∧
      template.Fills (loader.helper? source) scope sketch := by
  have comes := ofTemplate_comesTo scope loader template (provides_of_isSome here)
  generalize (ofTemplate source scope loader template).2 = outcome at comes ⊢
  cases comes with
  | fault first =>
    rw [Call.firstFault?_eq_none_iff.mpr valued] at first
    cases first
  | done sound fills => exact ⟨_, rfl, fills⟩

/-- The first call whose arguments have no values ends the filling. -/
theorem ofTemplate_eq_error {early late : List Call} {call : Call} {error : EvalError}
    (split : template.calls = early ++ call :: late)
    (valued : ∀ earlier ∈ early,
      ∃ arguments, Arguments.evaluate scope earlier.arguments = .ok arguments)
    (refused : Arguments.evaluate scope call.arguments = .error error) :
    (ofTemplate source scope loader template).2 = .error (.arguments call.helper error) := by
  have sound : Call.firstFault? scope early = none := Call.firstFault?_eq_none_iff.mpr valued
  have fault : Call.firstFault? scope template.calls = some (.arguments call.helper error) := by
    rw [split, Call.firstFault?_append_of_none sound, Call.firstFault?, List.findSome?_cons,
      Call.fault?, refused]
  have comes := ofTemplate_comesTo scope loader template (provides_of_isSome here)
  generalize (ofTemplate source scope loader template).2 = outcome at comes ⊢
  cases comes with
  | fault first => rw [Option.some.inj (first.symm.trans fault)]
  | done sound =>
    rw [sound] at fault
    cases fault

end

end Sketch

namespace Template

/-- **The ways through a template agree.**  For every template:

* it is concrete exactly if neither references nor calls are listed for it;
* it is concrete exactly if it has a value, and that is what it is evaluated to in every scope;
* where every helper that it calls is here, and the arguments of every call have values, filling
  gives a concrete template of the same shape.  Its value is the one that the helpers give, and
  the one that the sketch is finished with;
* where every helper is here, and the arguments of a call have no values, filling fails with the
  first such call. -/
theorem traversals_agree (template : Template) :
    (template.isConcrete = true ↔ template.references = [] ∧ template.calls = []) ∧
    (template.isConcrete = true ↔ ∃ value, template.toValue? = some value) ∧
    (∀ value, template.toValue? = some value → ∀ scope, template.evaluate scope = .ok value) ∧
    ∀ (source : HelperSource) (scope : Scope) (loader : Loader),
      (∀ call ∈ template.calls, (loader.helper? source call.helper).isSome) →
      ((∀ call ∈ template.calls,
          ∃ arguments, Arguments.evaluate scope call.arguments = .ok arguments) →
        ∃ sketch value, (Sketch.ofTemplate source scope loader template).2 = .ok sketch ∧
          (template.filled sketch).isConcrete = true ∧
          (template.filled sketch).shape = template.shape ∧
          (template.filled sketch).toValue? = some value ∧
          template.answer? (loader.helper? source) scope = some value ∧
          ∀ field, sketch.finish field = .ok value) ∧
      ∀ early call late error, template.calls = early ++ call :: late →
        (∀ earlier ∈ early,
          ∃ arguments, Arguments.evaluate scope earlier.arguments = .ok arguments) →
        Arguments.evaluate scope call.arguments = .error error →
        (Sketch.ofTemplate source scope loader template).2 =
          .error (.arguments call.helper error) := by
  refine ⟨isConcrete_iff template, ?_, fun value known => evaluate_of_toValue? known, ?_⟩
  · rw [← isSome_toValue?, Option.isSome_iff_exists]
  intro source scope loader here
  refine ⟨fun valued => ?_, fun early call late error => Sketch.ofTemplate_eq_error scope here⟩
  obtain ⟨sketch, sketched, fills⟩ := Sketch.exists_fills scope here valued
  obtain ⟨value, known, answered, finished⟩ := fills.exists_value
  refine ⟨sketch, value, sketched, ?_, fills.shape_eq, known, answered, finished⟩
  rw [← isSome_toValue?, known]
  rfl

/-- A helper that came before and one that is asked for now, in an object with an array in it. -/
theorem traversals_agree_with_two_helpers :
    let scope : Scope := [[("k", .bool true)]]
    let source : HelperSource := fun _ => .ready fun _ => .null
    let loader : Loader := ⟨[("f", .ready .array)], ["f"]⟩
    let list : Template := .array [.lookup ⟨"k"⟩, .invoke ⟨"f", "'x', k"⟩]
    let template : Template := .object [("b", list), ("a", .invoke ⟨"g", ""⟩)]
    (∀ call ∈ template.calls, (loader.helper? source call.helper).isSome) ∧
    (∀ call ∈ template.calls,
      ∃ arguments, Arguments.evaluate scope call.arguments = .ok arguments) ∧
    ∃ sketch, (Sketch.ofTemplate source scope loader template).2 = .ok sketch ∧
      (template.filled sketch).isConcrete = true ∧
      (template.filled sketch).shape = .object [("b", .array [.place, .place]), ("a", .place)] ∧
      (template.filled sketch).toValue? = some (.object
        [("b", .array [.bool true, .array [.string "x", .bool true]]), ("a", .null)]) := by
  intro scope source loader list template
  have here : ∀ call ∈ template.calls, (loader.helper? source call.helper).isSome :=
    List.forall_mem_cons.mpr ⟨rfl, List.forall_mem_singleton.mpr rfl⟩
  -- spelled out, the arguments are read by computation
  have first : Arguments.evaluate scope "'x', k" = .ok [.string "x", .bool true] := by
    have spelled : "'x', k".toList = ['\x27', 'x', '\x27', ',', ' ', 'k'] := by decide
    rw [Arguments.evaluate, Arguments.read, spelled]
    rfl
  have second : Arguments.evaluate scope "" = .ok [] := rfl
  have valued : ∀ call ∈ template.calls,
      ∃ arguments, Arguments.evaluate scope call.arguments = .ok arguments :=
    List.forall_mem_cons.mpr ⟨⟨_, first⟩, List.forall_mem_singleton.mpr ⟨_, second⟩⟩
  obtain ⟨-, -, -, fills⟩ := traversals_agree template
  obtain ⟨sketch, value, sketched, concrete, shaped, known, answered, -⟩ :=
    (fills source scope loader here).1 valued
  refine ⟨here, valued, sketch, sketched, concrete, shaped, known.trans (answered.symm.trans ?_)⟩
  simp only [template, list, answer?, fieldAnswers?, itemAnswers?, Call.answer?, first, second]
  rfl

/-- Every helper is here, but nothing is filled: the arguments of the call cannot be read. -/
theorem unfilled_for_arguments :
    let source : HelperSource := fun _ => .ready .array
    let template : Template := .array [.literal .null, .invoke ⟨"f", "@"⟩]
    (∀ name, (Loader.empty.helper? source name).isSome) ∧
    (Sketch.ofTemplate source [[]] Loader.empty template).2 =
      .error (.arguments "f" (.parse (.unexpectedChar 0 '@'))) := by
  intro source template
  have spelled : "@".toList = ['@'] := by decide
  have read : Arguments.read [[]] "@" = .error (.unexpectedChar 0 '@') := by
    rw [Arguments.read, spelled]
    rfl
  refine ⟨fun name => rfl, ?_⟩
  simp only [template, Sketch.ofTemplate, Sketch.ofItems, Sketch.ofCall, Arguments.evaluate, read]

end Template

end Choreography
