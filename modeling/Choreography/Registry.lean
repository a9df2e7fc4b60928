import Choreography.Notice

/-!
# The registry of named animations

Each name stands for the options that were last resolved for it, the element
they belong to, and the last time the animation was played.  Registering a name
again replaces the options and the element and keeps the last play; the element
that registered it last owns the name.
-/

namespace Choreography

/-- What a name stands for. -/
structure Registry.Record where
  element : ElementId
  options : Fields Value
  lastRun : Option Handle
deriving Repr, Inhabited

/-- The records of all names. -/
abbrev Registry := Fields Registry.Record

namespace Registry

/-- What a registration found: nothing, or a record of the given element. -/
inductive Registration where
  | inserted
  | updated (previous : ElementId)
deriving DecidableEq, Repr

/-- The notice that a registration by an element took a name from another. -/
def Registration.notice? (name : String) (element : ElementId) :
    Registration → Option Notice
  | .inserted => none
  | .updated previous =>
    if previous = element then none else some (.nameTaken name previous element)

/-- The registry with a name registered. -/
def register (registry : Registry) (name : String) (element : ElementId)
    (options : Fields Value) : Registry × Registration :=
  match Fields.get? registry name with
  | some record =>
    (Fields.put registry name ⟨element, options, record.lastRun⟩,
      .updated record.element)
  | none => (Fields.put registry name ⟨element, options, none⟩, .inserted)

/-- The registry without the records of an element. -/
def release (registry : Registry) (element : ElementId) : Registry :=
  registry.filter fun entry => entry.2.element ≠ element

/-- The names of the records of an element, in alphabetical order. -/
def namesOf (registry : Registry) (element : ElementId) : List String :=
  (Fields.keys (registry.filter fun entry => entry.2.element = element)).mergeSort

/-- The registry with the last play of a name noted, if the name is there. -/
def setLastRun (registry : Registry) (name : String) (handle : Handle) : Registry :=
  match Fields.get? registry name with
  | some record => Fields.put registry name { record with lastRun := some handle }
  | none => registry

/-- All names, in alphabetical order. -/
def names (registry : Registry) : List String := (Fields.keys registry).mergeSort

/-! ## Small laws -/

/-- After a registration the name stands for what was registered. -/
theorem get?_register (registry : Registry) (name : String) (element : ElementId)
    (options : Fields Value) :
    Fields.get? (registry.register name element options).1 name =
      some ⟨element, options, (Fields.get? registry name).bind Record.lastRun⟩ := by
  unfold register
  split <;> rename_i found <;> simp [Fields.get?_put, found]

/-- A registration leaves every other name as it was. -/
theorem get?_register_of_ne (registry : Registry) {name other : String}
    (different : name ≠ other) (element : ElementId) (options : Fields Value) :
    Fields.get? (registry.register name element options).1 other =
      Fields.get? registry other := by
  unfold register
  split <;> simp [Fields.get?_put, different]

/-- Noting a play writes the last play of its name and nothing else. -/
theorem get?_setLastRun (registry : Registry) (name other : String) (handle : Handle) :
    Fields.get? (registry.setLastRun name handle) other =
      if name = other then
        (Fields.get? registry other).map fun record => { record with lastRun := some handle }
      else Fields.get? registry other := by
  unfold setLastRun
  split <;> rename_i found
  · rw [Fields.get?_put]
    by_cases same : name = other
    · rw [if_pos same, if_pos same, ← same, found]
      rfl
    · rw [if_neg same, if_neg same]
  · by_cases same : name = other
    · rw [if_pos same, ← same, found]
      rfl
    · rw [if_neg same]

theorem nodup_keys_register {registry : Registry} (distinct : (Fields.keys registry).Nodup)
    (name : String) (element : ElementId) (options : Fields Value) :
    (Fields.keys (registry.register name element options).1).Nodup := by
  unfold register
  split <;> exact Fields.nodup_keys_put name _ distinct

theorem nodup_keys_setLastRun {registry : Registry} (distinct : (Fields.keys registry).Nodup)
    (name : String) (handle : Handle) :
    (Fields.keys (registry.setLastRun name handle)).Nodup := by
  unfold setLastRun
  split
  · exact Fields.nodup_keys_put name _ distinct
  · exact distinct

/-- A release leaves a name what it stands for, if this is not of the released element. -/
theorem get?_release {registry : Registry} (distinct : (Fields.keys registry).Nodup)
    (element : ElementId) (name : String) :
    Fields.get? (registry.release element) name =
      (Fields.get? registry name).filter fun record => record.element ≠ element :=
  Fields.get?_filter distinct (fun entry => entry.2.element ≠ element) name

end Registry

/-- One step of a timeline. -/
structure TimelineStep where
  name : String
  element : ElementId
  options : Fields Value
deriving Repr, Inhabited

namespace TimelineStep

/-- The step that a name gives, if it is registered. -/
def ofName? (registry : Registry) (name : String) : Option TimelineStep :=
  (Fields.get? registry name).map fun record => ⟨name, record.element, record.options⟩

/-- The steps of the registered names of a list, in its order. -/
def ofNames (registry : Registry) (names : List String) : List TimelineStep :=
  names.filterMap (ofName? registry)

/-- The names of a list that are not registered, in its order. -/
def missing (registry : Registry) (names : List String) : List String :=
  names.filter fun name => !Fields.has registry name

/-- A step as JSON data. -/
def toJson (step : TimelineStep) : Json :=
  .object
    [("name", .string step.name), ("element", .ofNat step.element.number),
      ("options", Value.fieldsToJson step.options)]

end TimelineStep

end Choreography
