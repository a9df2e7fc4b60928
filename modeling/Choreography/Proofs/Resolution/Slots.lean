import Choreography.Proofs.Resolution.Waiting

/-!
# Writing results back

Another account of how waiting options are completed.  A walk over a sketch notes
each open place with the indices that lead to it; when every call has its result
the results are written at those paths, in the same order, and a path that leads
nowhere is passed over.

`complete_eq_settleFields` shows that this is what a sketch comes to: every open
place is noted once, a path still leads to its own place after other places were
written, and the list of results is aligned with the list of paths.
-/

namespace Choreography

/-- The indices that lead from a whole to one of its places. -/
abbrev Path := List Nat

/-- An open place: where it is, and the call that waits there. -/
structure Slot where
  path : Path
  call : WaitingCall

/-- A slot of a part, as a slot of the whole that has the part at an index. -/
def Slot.under (index : Nat) (slot : Slot) : Slot := ⟨index :: slot.path, slot.call⟩

namespace Sketch

mutual

/-- The open places of a sketch, in the order of a walk over it. -/
def slots : Sketch → List Slot
  | .known _ => []
  | .array items => itemSlots 0 items
  | .object fields => fieldSlots 0 fields
  | .waiting call => [⟨[], call⟩]
  | .failed _ => []
termination_by structural sketch => sketch

/-- The open places of a list of sketches, the first of which has an index. -/
def itemSlots (index : Nat) : List Sketch → List Slot
  | [] => []
  | item :: rest => item.slots.map (Slot.under index) ++ itemSlots (index + 1) rest
termination_by structural items => items

/-- The open places of a list of fields, the first of which has an index. -/
def fieldSlots (index : Nat) : List (String × Sketch) → List Slot
  | [] => []
  | (_, sketch) :: rest =>
    sketch.slots.map (Slot.under index) ++ fieldSlots (index + 1) rest
termination_by structural fields => fields

end

/-- A sketch with a value at the end of a path. -/
def write (value : Value) : Path → Sketch → Sketch
  | [], _ => .known value
  | index :: rest, .array items => .array (items.modify index (write value rest))
  | index :: rest, .object fields =>
    .object (fields.modify index fun field => (field.1, write value rest field.2))
  | _ :: _, sketch => sketch

/-- Items with a value at the end of a path. -/
def writeItem (value : Value) : Path → List Sketch → List Sketch
  | [], items => items
  | index :: rest, items => items.modify index (write value rest)

/-- Fields with a value at the end of a path. -/
def writeField (value : Value) : Path → List (String × Sketch) → List (String × Sketch)
  | [], fields => fields
  | index :: rest, fields =>
    fields.modify index fun field => (field.1, write value rest field.2)

/-- Fields with values at the ends of paths, written one after the other. -/
def writeFields (places : List (Path × Value)) (fields : List (String × Sketch)) :
    List (String × Sketch) :=
  places.foldl (fun fields place => writeField place.2 place.1 fields) fields

/-! ## All results at once -/

mutual

/-- A sketch with the result of every call that waits in it. -/
def fill (result : WaitingCall → Value) : Sketch → Sketch
  | .known value => .known value
  | .array items => .array (fillItems result items)
  | .object fields => .object (fillFields result fields)
  | .waiting call => .known (result call)
  | .failed helper => .failed helper
termination_by structural sketch => sketch

/-- A list of sketches with the result of every call that waits in it. -/
def fillItems (result : WaitingCall → Value) : List Sketch → List Sketch
  | [] => []
  | item :: rest => item.fill result :: fillItems result rest
termination_by structural items => items

/-- A list of fields with the result of every call that waits in it. -/
def fillFields (result : WaitingCall → Value) :
    List (String × Sketch) → List (String × Sketch)
  | [] => []
  | (name, sketch) :: rest => (name, sketch.fill result) :: fillFields result rest
termination_by structural fields => fields

end

/-- The writes that give every slot its result. -/
def writes (result : WaitingCall → Value) (slots : List Slot) : List (Path × Value) :=
  slots.map fun slot => (slot.path, result slot.call)

/-- A sketch after some writes, each at its own path. -/
def writeAll (places : List (Path × Value)) (sketch : Sketch) : Sketch :=
  places.foldl (fun sketch place => sketch.write place.2 place.1) sketch

/-- A list of sketches after some writes. -/
def writeItems (places : List (Path × Value)) (items : List Sketch) : List Sketch :=
  places.foldl (fun items place => writeItem place.2 place.1 items) items

variable {result : WaitingCall → Value}

theorem writes_append (slots more : List Slot) :
    writes result (slots ++ more) = writes result slots ++ writes result more := by
  rw [writes, List.map_append]
  rfl

/-- An element between two parts of a list is the one that an index reaches. -/
theorem modify_between {α : Type} (change : α → α) (front : List α) (middle : α)
    (rest : List α) :
    (front ++ middle :: rest).modify front.length change = front ++ change middle :: rest := by
  induction front with
  | nil => rfl
  | cons first front ih =>
    show first :: (front ++ middle :: rest).modify front.length change = _
    rw [ih]
    rfl

/-- Writes below one index of a list of sketches reach the sketch at that index. -/
theorem writeItems_under (index : Nat) (slots : List Slot) (items : List Sketch) :
    writeItems (writes result (slots.map (Slot.under index))) items =
      items.modify index (writeAll (writes result slots)) := by
  induction slots generalizing items with
  | nil => exact (List.modify_id index items).symm
  | cons slot rest ih =>
    refine (ih (items.modify index (write (result slot.call) slot.path))).trans ?_
    rw [List.modify_modify_eq]
    rfl

/-- Writes below one index of a list of fields reach the sketch at that index. -/
theorem writeFields_under (index : Nat) (slots : List Slot)
    (fields : List (String × Sketch)) :
    writeFields (writes result (slots.map (Slot.under index))) fields =
      fields.modify index fun field => (field.1, writeAll (writes result slots) field.2) := by
  induction slots generalizing fields with
  | nil => exact (List.modify_id index fields).symm
  | cons slot rest ih =>
    refine (ih (fields.modify index fun field =>
      (field.1, write (result slot.call) slot.path field.2))).trans ?_
    rw [List.modify_modify_eq]
    rfl

/-- Every slot of a list of sketches lies below some index. -/
theorem path_ne_nil_of_mem_itemSlots {index : Nat} {items : List Sketch} {slot : Slot}
    (here : slot ∈ itemSlots index items) : slot.path ≠ [] := by
  induction items generalizing index with
  | nil => cases here
  | cons item rest ih =>
    rw [itemSlots] at here
    rcases List.mem_append.mp here with here | here
    · obtain ⟨inner, _, rfl⟩ := List.mem_map.mp here
      exact List.cons_ne_nil _ _
    · exact ih here

theorem path_ne_nil_of_mem_fieldSlots {index : Nat} {fields : List (String × Sketch)}
    {slot : Slot} (here : slot ∈ fieldSlots index fields) : slot.path ≠ [] := by
  induction fields generalizing index with
  | nil => cases here
  | cons field rest ih =>
    obtain ⟨name, sketch⟩ := field
    rw [fieldSlots] at here
    rcases List.mem_append.mp here with here | here
    · obtain ⟨inner, _, rfl⟩ := List.mem_map.mp here
      exact List.cons_ne_nil _ _
    · exact ih here

/-- Writes to an array whose paths are not empty are writes to its items. -/
theorem writeAll_array {slots : List Slot} (inside : ∀ slot ∈ slots, slot.path ≠ [])
    (items : List Sketch) :
    writeAll (writes result slots) (.array items) =
      .array (writeItems (writes result slots) items) := by
  induction slots generalizing items with
  | nil => rfl
  | cons slot rest ih =>
    obtain ⟨path, call⟩ := slot
    cases path with
    | nil => exact (inside _ List.mem_cons_self rfl).elim
    | cons index path =>
      exact ih (fun other here => inside other (List.mem_cons_of_mem _ here)) _

theorem writeAll_object {slots : List Slot} (inside : ∀ slot ∈ slots, slot.path ≠ [])
    (fields : List (String × Sketch)) :
    writeAll (writes result slots) (.object fields) =
      .object (writeFields (writes result slots) fields) := by
  induction slots generalizing fields with
  | nil => rfl
  | cons slot rest ih =>
    obtain ⟨path, call⟩ := slot
    cases path with
    | nil => exact (inside _ List.mem_cons_self rfl).elim
    | cons index path =>
      exact ih (fun other here => inside other (List.mem_cons_of_mem _ here)) _

mutual

/-- Writing every result at the path of its slot fills the sketch: the writes to
one part leave the paths into the others as they are. -/
theorem writeAll_slots (sketch : Sketch) :
    writeAll (writes result sketch.slots) sketch = sketch.fill result := by
  cases sketch with
  | known => rfl
  | array items =>
    rw [slots, writeAll_array (fun _ here => path_ne_nil_of_mem_itemSlots here), fill]
    exact congrArg Sketch.array (writeItems_slots [] items)
  | object fields =>
    rw [slots, writeAll_object (fun _ here => path_ne_nil_of_mem_fieldSlots here), fill]
    exact congrArg Sketch.object (writeFields_slots [] fields)
  | waiting => rfl
  | failed => rfl

theorem writeItems_slots (front items : List Sketch) :
    writeItems (writes result (itemSlots front.length items)) (front ++ items) =
      front ++ fillItems result items := by
  cases items with
  | nil => rfl
  | cons item rest =>
    have others := writeItems_slots (front ++ [item.fill result]) rest
    rw [List.length_append, List.append_assoc, List.append_assoc] at others
    have here : writeItems (writes result (item.slots.map (Slot.under front.length)))
        (front ++ item :: rest) = _ := writeItems_under front.length item.slots _
    rw [modify_between, writeAll_slots item] at here
    rw [itemSlots, writes_append, writeItems, List.foldl_append,
      show List.foldl _ (front ++ item :: rest) _ = _ from here]
    exact others

/-- Writing every result at the path of its slot fills the fields. -/
theorem writeFields_slots (front fields : List (String × Sketch)) :
    writeFields (writes result (fieldSlots front.length fields)) (front ++ fields) =
      front ++ fillFields result fields := by
  match fields with
  | [] => rfl
  | (name, sketch) :: rest =>
    have others := writeFields_slots (front ++ [(name, sketch.fill result)]) rest
    rw [List.length_append, List.append_assoc, List.append_assoc] at others
    have here : writeFields (writes result (sketch.slots.map (Slot.under front.length)))
        (front ++ (name, sketch) :: rest) = _ := writeFields_under front.length sketch.slots _
    rw [modify_between, writeAll_slots sketch] at here
    rw [fieldSlots, writes_append, writeFields, List.foldl_append,
      show List.foldl _ (front ++ (name, sketch) :: rest) _ = _ from here]
    exact others

end

/-! ## The results of all calls -/

mutual

/-- Whether no place of a sketch has failed. -/
def isIntact : Sketch → Bool
  | .known _ => true
  | .array items => itemsIntact items
  | .object fields => fieldsIntact fields
  | .waiting _ => true
  | .failed _ => false
termination_by structural sketch => sketch

/-- Whether no place of a list of sketches has failed. -/
def itemsIntact : List Sketch → Bool
  | [] => true
  | item :: rest => item.isIntact && itemsIntact rest
termination_by structural items => items

/-- Whether no place of a list of fields has failed. -/
def fieldsIntact : List (String × Sketch) → Bool
  | [] => true
  | (_, sketch) :: rest => sketch.isIntact && fieldsIntact rest
termination_by structural fields => fields

end

section

variable {source : HelperSource} {scope : Scope}

theorem ofCall_isIntact {loader later : Loader} {call : Call} {sketch : Sketch}
    (sketched : ofCall source scope loader call = (later, .ok sketch)) :
    sketch.isIntact = true := by
  obtain ⟨arguments, -, ⟨helper, -, rfl⟩ | ⟨arrival, -, -, rfl⟩⟩ := exists_of_ofCall sketched
  · rfl
  · rfl

mutual

theorem ofTemplate_isIntact {loader later : Loader} {template : Template} {sketch : Sketch}
    (sketched : ofTemplate source scope loader template = (later, .ok sketch)) :
    sketch.isIntact = true := by
  cases template with
  | literal => cases sketched; rfl
  | lookup => cases sketched; rfl
  | invoke call => exact ofCall_isIntact sketched
  | array items =>
    obtain ⟨sketches, inner, rfl⟩ := exists_of_ofArray sketched
    exact ofItems_isIntact inner
  | object fields =>
    obtain ⟨sketches, inner, rfl⟩ := exists_of_ofObject sketched
    exact ofFields_isIntact inner

theorem ofItems_isIntact {loader later : Loader} {items : List Template}
    {sketches : List Sketch}
    (sketched : ofItems source scope loader items = (later, .ok sketches)) :
    itemsIntact sketches = true := by
  cases items with
  | nil => cases sketched; rfl
  | cons item rest =>
    obtain ⟨between, sketch, others, first, second, -, rfl⟩ := exists_of_ofItems sketched
    rw [itemsIntact, ofTemplate_isIntact first, ofItems_isIntact second]
    rfl

/-- No place has failed in a first sketch: it would have been an error. -/
theorem ofFields_isIntact {loader later : Loader} {fields : List (String × Template)}
    {sketches : List (String × Sketch)}
    (sketched : ofFields source scope loader fields = (later, .ok sketches)) :
    fieldsIntact sketches = true := by
  match fields with
  | [] => cases sketched; rfl
  | (name, template) :: rest =>
    obtain ⟨between, sketch, others, first, second, -, rfl⟩ := exists_of_ofFields sketched
    rw [fieldsIntact, ofTemplate_isIntact first, ofFields_isIntact second]
    rfl

end

end

/-- The results of the calls of some slots, in order, or the first error. -/
def gather (supply : String → Option Helper) (slots : List Slot) :
    Except ResolveError (List Value) :=
  slots.mapM fun slot => settleCall supply slot.call

/-- The result of a call whose helper comes. -/
def resultOf (supply : String → Option Helper) (call : WaitingCall) : Value :=
  match supply call.helper with
  | some helper => helper call.arguments
  | none => .undefined

variable {supply : String → Option Helper}

theorem gather_cons (slot : Slot) (rest : List Slot) :
    gather supply (slot :: rest) = (do
      let value ← settleCall supply slot.call
      let values ← gather supply rest
      .ok (value :: values)) := List.mapM_cons

theorem gather_append (slots more : List Slot) :
    gather supply (slots ++ more) = (do
      let values ← gather supply slots
      let others ← gather supply more
      .ok (values ++ others)) := List.mapM_append

theorem gather_under (index : Nat) (slots : List Slot) :
    gather supply (slots.map (Slot.under index)) = gather supply slots := List.mapM_map

/-- When every result is there, each is the one of its own call. -/
theorem gather_ok {slots : List Slot} {values : List Value}
    (gathered : gather supply slots = .ok values) :
    values = slots.map fun slot => resultOf supply slot.call := by
  induction slots generalizing values with
  | nil => cases gathered; rfl
  | cons slot rest ih =>
    rw [gather_cons, settleCall] at gathered
    cases given : supply slot.call.helper with
    | none => rw [given] at gathered; cases gathered
    | some helper =>
      rw [given] at gathered
      cases others : gather supply rest with
      | error => rw [others] at gathered; cases gathered
      | ok found =>
        rw [others] at gathered
        cases gathered
        rw [List.map_cons, ih others, resultOf, given]

mutual

/-- Nothing waits in a sketch that is filled. -/
theorem awaited_fill (sketch : Sketch) : (sketch.fill result).awaited = [] := by
  cases sketch with
  | known => rfl
  | array items => rw [fill, awaited, itemsAwaited_fillItems items]
  | object fields => rw [fill, awaited, fieldsAwaited_fillFields fields]
  | waiting => rfl
  | failed => rfl

theorem itemsAwaited_fillItems (items : List Sketch) :
    itemsAwaited (fillItems result items) = [] := by
  cases items with
  | nil => rfl
  | cons item rest =>
    rw [fillItems, itemsAwaited, awaited_fill item, itemsAwaited_fillItems rest]
    rfl

theorem fieldsAwaited_fillFields (fields : List (String × Sketch)) :
    fieldsAwaited (fillFields result fields) = [] := by
  match fields with
  | [] => rfl
  | (name, sketch) :: rest =>
    rw [fillFields, fieldsAwaited, awaited_fill sketch, fieldsAwaited_fillFields rest]
    rfl

end

mutual

/-- A sketch that is filled has a value. -/
theorem settle_fill (sketch : Sketch) (intact : sketch.isIntact = true) :
    ∃ value, (sketch.fill result).settle supply = .ok value := by
  cases sketch with
  | known value => exact ⟨value, rfl⟩
  | array items =>
    obtain ⟨values, filled⟩ := settleItems_fillItems items intact
    exact ⟨.array values, by rw [fill, settle, filled]; rfl⟩
  | object fields =>
    obtain ⟨values, filled⟩ := settleFields_fillFields fields intact
    exact ⟨.object values, by rw [fill, settle, filled]; rfl⟩
  | waiting call => exact ⟨result call, rfl⟩
  | failed => cases intact

theorem settleItems_fillItems (items : List Sketch) (intact : itemsIntact items = true) :
    ∃ values, settleItems supply (fillItems result items) = .ok values := by
  cases items with
  | nil => exact ⟨[], rfl⟩
  | cons item rest =>
    rw [itemsIntact, Bool.and_eq_true] at intact
    obtain ⟨value, here⟩ := settle_fill item intact.1
    obtain ⟨values, there⟩ := settleItems_fillItems rest intact.2
    exact ⟨value :: values, by rw [fillItems, settleItems, here, there]; rfl⟩

theorem settleFields_fillFields (fields : List (String × Sketch))
    (intact : fieldsIntact fields = true) :
    ∃ values, settleFields supply (fillFields result fields) = .ok values := by
  match fields with
  | [] => exact ⟨[], rfl⟩
  | (name, sketch) :: rest =>
    rw [fieldsIntact, Bool.and_eq_true] at intact
    obtain ⟨value, here⟩ := settle_fill sketch intact.1
    obtain ⟨values, there⟩ := settleFields_fillFields rest intact.2
    exact ⟨(name, value) :: values, by rw [fillFields, settleFields, here, there]; rfl⟩

end

mutual

/-- A sketch comes to the first error among its calls, or to itself filled with
their results. -/
theorem settle_eq_gather (sketch : Sketch) (intact : sketch.isIntact = true) :
    sketch.settle supply = (do
      let _ ← gather supply sketch.slots
      (sketch.fill (resultOf supply)).settle supply) := by
  cases sketch with
  | known => rfl
  | array items =>
    rw [settle, settleItems_eq_gather 0 items intact, slots, fill, settle]
    cases gather supply (itemSlots 0 items) <;> rfl
  | object fields =>
    rw [settle, settleFields_eq_gather 0 fields intact, slots, fill, settle]
    cases gather supply (fieldSlots 0 fields) <;> rfl
  | waiting call =>
    rw [settle, slots, gather_cons, fill, settle]
    simp only [settleCall, resultOf]
    cases supply call.helper <;> rfl
  | failed => cases intact

theorem settleItems_eq_gather (index : Nat) (items : List Sketch)
    (intact : itemsIntact items = true) :
    settleItems supply items = (do
      let _ ← gather supply (itemSlots index items)
      settleItems supply (fillItems (resultOf supply) items)) := by
  cases items with
  | nil => rfl
  | cons item rest =>
    rw [itemsIntact, Bool.and_eq_true] at intact
    obtain ⟨value, here⟩ : ∃ value, (item.fill (resultOf supply)).settle supply = .ok value :=
      settle_fill item intact.1
    rw [settleItems, settle_eq_gather item intact.1,
      settleItems_eq_gather (index + 1) rest intact.2, itemSlots, gather_append,
      gather_under, fillItems, settleItems, here]
    cases gather supply item.slots with
    | error => rfl
    | ok => cases gather supply (itemSlots (index + 1) rest) <;> rfl

theorem settleFields_eq_gather (index : Nat) (fields : List (String × Sketch))
    (intact : fieldsIntact fields = true) :
    settleFields supply fields = (do
      let _ ← gather supply (fieldSlots index fields)
      settleFields supply (fillFields (resultOf supply) fields)) := by
  match fields with
  | [] => rfl
  | (name, sketch) :: rest =>
    rw [fieldsIntact, Bool.and_eq_true] at intact
    obtain ⟨value, here⟩ : ∃ value, (sketch.fill (resultOf supply)).settle supply = .ok value :=
      settle_fill sketch intact.1
    rw [settleFields, settle_eq_gather sketch intact.1,
      settleFields_eq_gather (index + 1) rest intact.2, fieldSlots, gather_append,
      gather_under, fillFields, settleFields, here]
    cases gather supply sketch.slots with
    | error => rfl
    | ok => cases gather supply (fieldSlots (index + 1) rest) <;> rfl

end

end Sketch

namespace PendingOptions

open Sketch

/-- Options completed from the results of their calls: each result is written at
the path that was noted for its call. -/
def complete (supply : String → Option Helper) (options : PendingOptions) :
    Except ResolveError (Fields Value) := do
  let slots := fieldSlots 0 options
  let results ← gather supply slots
  finish (writeFields ((slots.map Slot.path).zip results) options)

/-- What options come to is what writing the results back gives. -/
theorem complete_eq_settleFields (supply : String → Option Helper)
    (options : PendingOptions) (intact : fieldsIntact options = true) :
    options.complete supply = settleFields supply options := by
  rw [settleFields_eq_gather 0 options intact, complete]
  cases gathered : gather supply (fieldSlots 0 options) with
  | error => rfl
  | ok results =>
    have aligned : ((fieldSlots 0 options).map Slot.path).zip results =
        writes (resultOf supply) (fieldSlots 0 options) := by
      rw [gather_ok gathered, List.zip_map']
      rfl
    show finish (writeFields (((fieldSlots 0 options).map Slot.path).zip results) options) =
      settleFields supply (fillFields (resultOf supply) options)
    have filled : writeFields (writes (resultOf supply) (fieldSlots 0 options)) options =
        fillFields (resultOf supply) options := writeFields_slots [] options
    rw [aligned, filled]
    exact finish_eq_settleFields _ (fieldsAwaited_fillFields options)

end PendingOptions

end Choreography
