import Choreography.Animation
import Choreography.Proofs.Fields.Mapped

/-!
# What a scope decides

A scope decides which dotted names are references and which are strings, and nothing else.
Spelling a template out makes every reference the string of its text.  **What is read in any
scope and then spelled out is what is read without any data** (`spellsOut`), down to the
errors and to what is left of the text, and so it is with whole directives
(`spellOut_compile`).
-/

namespace Choreography

namespace Template

mutual

/-- A template with every reference made the string of its text. -/
def spellOut : Template → Template
  | .literal value => .literal value
  | .array items => .array (spellOutItems items)
  | .object fields => .object (spellOutFields fields)
  | .lookup reference => .literal (.string reference.source)
  | .invoke call => .invoke call
termination_by structural template => template

/-- A list of templates, all spelled out. -/
def spellOutItems : List Template → List Template
  | [] => []
  | item :: rest => item.spellOut :: spellOutItems rest
termination_by structural items => items

/-- A list of fields, all spelled out. -/
def spellOutFields : List (String × Template) → List (String × Template)
  | [] => []
  | (name, template) :: rest => (name, template.spellOut) :: spellOutFields rest
termination_by structural fields => fields

end

theorem spellOutItems_eq_map (items : List Template) :
    spellOutItems items = items.map spellOut := by
  induction items with
  | nil => rfl
  | cons item rest ih =>
    rw [spellOutItems, ih]
    rfl

theorem spellOutFields_eq_mapValues (fields : List (String × Template)) :
    spellOutFields fields = Fields.mapValues spellOut fields := by
  induction fields with
  | nil => rfl
  | cons field rest ih =>
    rw [spellOutFields, ih]
    rfl

theorem spellOut_array (items : List Template) :
    (array items).spellOut = array (items.map spellOut) := by
  rw [spellOut, spellOutItems_eq_map]

/-- Spelling out an object keeps what replaces what. -/
theorem spellOut_object_ofList (fields : List (String × Template)) :
    (object (Fields.ofList fields)).spellOut =
      object (Fields.ofList (Fields.mapValues spellOut fields)) := by
  rw [spellOut, spellOutFields_eq_mapValues, Fields.mapValues_ofList]

end Template

namespace Literal

/-! ## Reading in a scope and without one -/

variable (scope : Scope) (stop : Nat)

/-- A reading of a template with the template spelled out. -/
def spellReading (read : Except ParseError (Reading Template)) :
    Except ParseError (Reading Template) :=
  read.map fun reading => (reading.1.spellOut, reading.2)

theorem spellOut_nameTemplate (path : String) :
    (nameTemplate scope path).spellOut = nameTemplate [] path := by
  have bare : nameTemplate [] path = .literal (.string path) := rfl
  rw [bare, nameTemplate]
  split <;> rfl

theorem spellOut_readName (text : List Char) :
    spellReading (readName ⟨scope, stop⟩ text) = readName ⟨[], stop⟩ text := by
  rw [readName, readName]
  split
  · rfl
  · dsimp only
    split
    · split
      · rfl
      · split <;> rfl
    · show Except.ok ((nameTemplate scope _).spellOut, _) = _
      rw [spellOut_nameTemplate]

/-- With one amount of fuel, what is read in a scope and spelled out is what is read without
one. -/
structure SpellsOut (fuel : Nat) : Prop where
  value : ∀ text, spellReading (readValue ⟨scope, stop⟩ fuel text) = readValue ⟨[], stop⟩ fuel text
  fields : ∀ text, (readFields ⟨scope, stop⟩ fuel text).map
      (fun reading => (Fields.mapValues Template.spellOut reading.1, reading.2)) =
    readFields ⟨[], stop⟩ fuel text
  items : ∀ text, (readItems ⟨scope, stop⟩ fuel text).map
      (fun reading => (reading.1.map Template.spellOut, reading.2)) =
    readItems ⟨[], stop⟩ fuel text

/-- What is read first and then turned by one function is what is read first, if what is read
after it is turned. -/
theorem map_bind {ε α β γ : Type} {first : Except ε α} {next : α → Except ε β} {turn : β → γ}
    {turned : α → Except ε γ} (each : ∀ read, (next read).map turn = turned read) :
    (first >>= next).map turn = first >>= turned := by
  cases first with
  | error => rfl
  | ok read => exact each read

/-- The same where what is read first is turned as well. -/
theorem map_bind_map {ε α β γ δ : Type} {first : Except ε α} {next : α → Except ε β}
    {early : α → γ} {turn : β → δ} {turned : γ → Except ε δ}
    (each : ∀ read, (next read).map turn = turned (early read)) :
    (first >>= next).map turn = first.map early >>= turned := by
  cases first with
  | error => rfl
  | ok read => exact each read

namespace SpellsOut

variable {scope : Scope} {stop fuel : Nat}

theorem readValue_succ (spells : SpellsOut scope stop fuel) (text : List Char) :
    spellReading (readValue ⟨scope, stop⟩ (fuel + 1) text) =
      readValue ⟨[], stop⟩ (fuel + 1) text := by
  rw [readValue, readValue]
  cases Text.trimStart text with
  | nil => rfl
  | cons c rest =>
    dsimp only
    split
    · rw [← spells.fields rest]
      exact map_bind_map fun reading => congrArg (fun template => Except.ok (template, reading.2))
        (Template.spellOut_object_ofList reading.1)
    · split
      · rw [← spells.items rest]
        exact map_bind_map fun reading =>
          congrArg (fun template => Except.ok (template, reading.2))
            (Template.spellOut_array reading.1)
      · -- what is no container has no templates in it, and a name alone asks the scope
        split
        · exact map_bind fun _ => rfl
        · split
          · exact map_bind fun _ => rfl
          · split
            · exact spellOut_readName scope stop (c :: rest)
            · rfl

theorem readFields_succ (spells : SpellsOut scope stop fuel) (text : List Char) :
    (readFields ⟨scope, stop⟩ (fuel + 1) text).map
        (fun reading => (Fields.mapValues Template.spellOut reading.1, reading.2)) =
      readFields ⟨[], stop⟩ (fuel + 1) text := by
  rw [readFields, readFields]
  split
  · rfl
  · rfl
  · -- the key and the colon are read alike in any scope
    refine map_bind fun key => map_bind fun ⟨_, after⟩ => ?_
    dsimp only
    rw [← spells.value after]
    refine map_bind_map fun value => map_bind fun continuation => ?_
    obtain ⟨continues, rest⟩ := continuation
    cases continues with
    | done => rfl
    | more =>
      dsimp only
      rw [← spells.fields rest]
      exact map_bind_map fun _ => rfl

theorem readItems_succ (spells : SpellsOut scope stop fuel) (text : List Char) :
    (readItems ⟨scope, stop⟩ (fuel + 1) text).map
        (fun reading => (reading.1.map Template.spellOut, reading.2)) =
      readItems ⟨[], stop⟩ (fuel + 1) text := by
  rw [readItems, readItems]
  split
  · rfl
  · rfl
  · rw [← spells.value text]
    refine map_bind_map fun value => map_bind fun continuation => ?_
    obtain ⟨continues, rest⟩ := continuation
    cases continues with
    | done => rfl
    | more =>
      dsimp only
      rw [← spells.items rest]
      exact map_bind_map fun _ => rfl

end SpellsOut

theorem spellsOut (fuel : Nat) : SpellsOut scope stop fuel := by
  induction fuel with
  -- without fuel every reader fails, in any scope
  | zero => exact ⟨fun _ => rfl, fun _ => rfl, fun _ => rfl⟩
  | succ fuel ih => exact ⟨ih.readValue_succ, ih.readFields_succ, ih.readItems_succ⟩

end Literal

/-- A template that is read in a scope and spelled out is read without one. -/
theorem Template.spellOut_read (scope : Scope) (segment : Segment) :
    (Template.read scope segment).map Template.spellOut = Template.read [] segment := by
  rw [Template.read, Template.read]
  generalize Text.trimStart segment.text = text
  cases text with
  | nil => rfl
  | cons c rest =>
    dsimp only
    rw [← (Literal.spellsOut scope _ _).value (c :: rest)]
    refine Literal.map_bind_map fun reading => ?_
    dsimp only
    split <;> rfl

/-! ## Compiling in a scope and without one -/

namespace Expression

variable (scope : Scope) (source : String)

/-- What was compiled, turned by a function; the diagnostics stay. -/
def Compiled.map {α β : Type} (turn : α → β) (compiled : Compiled α) : Compiled β :=
  ⟨turn compiled.result, compiled.diagnostics⟩

/-- An expression with all its options spelled out. -/
def spellOut : Expression → Expression
  | .bare options => .bare (Fields.mapValues Template.spellOut options)
  | .named animations =>
    .named (Fields.mapValues (Fields.mapValues Template.spellOut) animations)

theorem spellOut_readOption (entry : Segment) :
    (readOption scope entry).map (fun field => (field.1, field.2.spellOut)) =
      readOption [] entry := by
  rw [readOption, readOption]
  refine Literal.map_bind fun ⟨key, value⟩ => ?_
  dsimp only
  rw [← Template.spellOut_read scope value]
  exact Literal.map_bind_map fun _ => rfl

theorem spellOut_compileBody (body : Segment) :
    (compileBody scope source body).map (Fields.mapValues Template.spellOut) =
      compileBody [] source body := by
  simp only [compileBody, Compiled.map, List.filterMap_map, Fields.mapValues_ofList,
    Compiled.mk.injEq]
  refine ⟨congrArg Fields.ofList ?_, ?_⟩
  · rw [Fields.mapValues, List.map_filterMap]
    congr 1
    funext entry
    simp only [Function.comp_apply, ← spellOut_readOption scope entry]
    cases readOption scope entry <;> rfl
  · congr 1
    funext entry
    simp only [Function.comp_apply, ← spellOut_readOption scope entry]
    cases readOption scope entry <;> rfl

theorem spellOut_compileNamed (entry : Segment) :
    (compileNamed scope source entry).map
        (Fields.mapValues (Fields.mapValues Template.spellOut)) =
      compileNamed [] source entry := by
  rw [compileNamed, compileNamed]
  split
  · dsimp only
    rw [← spellOut_compileBody scope]
    rfl
  · rfl

theorem spellOut_compileMapping (text : Segment) :
    (compileMapping scope source text).map
        (Fields.mapValues (Fields.mapValues Template.spellOut)) =
      compileMapping [] source text := by
  have each : (entriesOf text).map (compileNamed [] source) =
      ((entriesOf text).map (compileNamed scope source)).map
        (Compiled.map (Fields.mapValues (Fields.mapValues Template.spellOut))) := by
    rw [List.map_map]
    exact List.map_congr_left fun entry _ => (spellOut_compileNamed scope source entry).symm
  simp only [compileMapping, each, Compiled.map, Fields.mapValues_ofList, Compiled.mk.injEq,
    List.flatMap_map]
  exact ⟨congrArg Fields.ofList List.map_flatMap, trivial⟩

theorem spellOut_compile (text : List Char) :
    (compile scope source text).map spellOut = compile [] source text := by
  rw [compile, compile]
  dsimp only
  split
  · rfl
  · split
    · rw [← spellOut_compileBody scope]
      rfl
    · rw [← spellOut_compileMapping scope]
      rfl

end Expression

/-- An animation with its options spelled out. -/
def Animation.spellOut (animation : Animation) : Animation :=
  { animation with options := Fields.mapValues Template.spellOut animation.options }

/-- Modifiers give values, so there is nothing in them to spell out. -/
theorem Modifier.spellOut_entries (tokens : List String) :
    Fields.mapValues Template.spellOut (entries tokens) = entries tokens := by
  rw [entries, Fields.mapValues_ofList, Fields.mapValues, List.map_map]
  rfl

/-- **What a directive gives in any scope, spelled out, is what it gives without any data**,
and the diagnostics are the same. -/
theorem Directive.spellOut_compile (scope : Scope) (element : ElementId) (label : String)
    (directive : Directive) :
    (directive.compile scope element label).map (List.map Animation.spellOut) =
      directive.compile [] element label := by
  let animation (name : Option String) (options : Fields Template) : Animation :=
    ⟨name, element, Fields.putAll (Modifier.entries (TriggerSet.extract directive.modifiers).2)
      options, (TriggerSet.extract directive.modifiers).1⟩
  have spelled (name : Option String) (options : Fields Template) :
      (animation name options).spellOut =
        animation name (Fields.mapValues Template.spellOut options) := by
    simp only [animation, Animation.spellOut, Fields.mapValues_putAll, Modifier.spellOut_entries]
  rw [compile, compile, ← Expression.spellOut_compile scope]
  obtain ⟨result, diagnostics⟩ := Expression.compile scope label directive.expression.toList
  cases result with
  | bare options =>
    exact congrArg (fun spelt => Expression.Compiled.mk [spelt] diagnostics)
      (spelled directive.value options)
  | named animations =>
    have each : (animations.map fun field => animation (some field.1) field.2).map
          Animation.spellOut =
        (Fields.mapValues (Fields.mapValues Template.spellOut) animations).map
          fun field => animation (some field.1) field.2 := by
      rw [Fields.mapValues, List.map_map, List.map_map]
      exact List.map_congr_left fun field _ => spelled (some field.1) field.2
    exact congrArg (fun spelt => Expression.Compiled.mk spelt
      (diagnostics ++ directive.value.toList.map (valueIgnored label))) each

end Choreography
