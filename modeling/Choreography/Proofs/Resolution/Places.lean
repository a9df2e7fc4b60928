import Choreography.Proofs.Loading.Progress
import Choreography.Resolution

/-!
# Open places

The helpers that a sketch waits for, and how they shrink.  `Serves` ties them to
the template: every helper of the template has settled or is waited for, and
nothing else is waited for.  Sketching a template establishes it (`ofFields_fits`),
and polls keep it, because they only narrow what is waited for (`pollFields_narrows`,
`Serves.of_narrows`), whatever happens to the loader in between
(`Serves.of_precedes`).

A fresh sketch waits only for helpers that have not settled, which is the other half
of `Fits`.  After a poll that need not be so: a helper may settle in the same pass
after a place that waits for it was polled.
-/

namespace Choreography

namespace Template

/-- The names of the helpers that the options of a template call. -/
def fieldHelpers (options : List (String × Template)) : List String :=
  (fieldCalls options).map Call.helper

/-- The names of the helpers that a list of templates calls. -/
def itemHelpers (items : List Template) : List String :=
  (itemCalls items).map Call.helper

/-- The names of the helpers that a template calls. -/
def helpers (template : Template) : List String := template.calls.map Call.helper

@[simp] theorem helpers_literal (value : Value) : (literal value).helpers = [] := rfl

@[simp] theorem helpers_lookup (reference : Reference) : (lookup reference).helpers = [] :=
  rfl

@[simp] theorem helpers_invoke (call : Call) : (invoke call).helpers = [call.helper] := rfl

@[simp] theorem helpers_array (items : List Template) :
    (array items).helpers = itemHelpers items := rfl

@[simp] theorem helpers_object (fields : List (String × Template)) :
    (object fields).helpers = fieldHelpers fields := rfl

@[simp] theorem itemHelpers_nil : itemHelpers [] = [] := rfl

@[simp] theorem itemHelpers_cons (item : Template) (rest : List Template) :
    itemHelpers (item :: rest) = item.helpers ++ itemHelpers rest := by
  simp [itemHelpers, helpers, itemCalls]

@[simp] theorem fieldHelpers_nil : fieldHelpers [] = [] := rfl

@[simp] theorem fieldHelpers_cons (name : String) (template : Template)
    (rest : List (String × Template)) :
    fieldHelpers ((name, template) :: rest) = template.helpers ++ fieldHelpers rest := by
  simp [fieldHelpers, helpers, fieldCalls]

end Template

namespace Sketch

mutual

/-- The helpers that the open places of a sketch wait for, in order. -/
def awaited : Sketch → List String
  | .known _ => []
  | .array items => itemsAwaited items
  | .object fields => fieldsAwaited fields
  | .waiting call => [call.helper]
  | .failed _ => []
termination_by structural sketch => sketch

/-- The helpers that the open places of a list of sketches wait for. -/
def itemsAwaited : List Sketch → List String
  | [] => []
  | item :: rest => item.awaited ++ itemsAwaited rest
termination_by structural items => items

/-- The helpers that the open places of a list of fields wait for. -/
def fieldsAwaited : List (String × Sketch) → List String
  | [] => []
  | (_, sketch) :: rest => sketch.awaited ++ fieldsAwaited rest
termination_by structural fields => fields

end

mutual

/-- A sketch waits exactly if it waits for some helper. -/
theorem isWaiting_eq (sketch : Sketch) : sketch.isWaiting = !sketch.awaited.isEmpty := by
  cases sketch with
  | known => rfl
  | array items => simpa only [isWaiting, awaited] using itemsWait_eq items
  | object fields => simpa only [isWaiting, awaited] using fieldsWait_eq fields
  | waiting => rfl
  | failed => rfl

theorem itemsWait_eq (items : List Sketch) :
    itemsWait items = !(itemsAwaited items).isEmpty := by
  cases items with
  | nil => rfl
  | cons item rest =>
    rw [itemsWait, itemsAwaited, isWaiting_eq item, itemsWait_eq rest]
    cases item.awaited <;> rfl

theorem fieldsWait_eq (fields : List (String × Sketch)) :
    fieldsWait fields = !(fieldsAwaited fields).isEmpty := by
  match fields with
  | [] => rfl
  | (name, sketch) :: rest =>
    rw [fieldsWait, fieldsAwaited, isWaiting_eq sketch, fieldsWait_eq rest]
    cases sketch.awaited <;> rfl

end

end Sketch

/-! ## Helpers and the places that wait for them -/

/-- Of the helpers of a template those that are waited for were asked for, and the
others have settled. -/
structure Serves (loader : Loader) (helpers awaited : List String) : Prop where
  asked : ∀ name ∈ awaited, name ∈ helpers ∧ (loader.arrival? name).isSome
  settled : ∀ name ∈ helpers, name ∈ awaited ∨ loader.hasSettled name = true

/-- Nothing that is waited for has settled. -/
def Fresh (loader : Loader) (awaited : List String) : Prop :=
  ∀ name ∈ awaited, loader.hasSettled name = false

namespace Serves

variable {loader later : Loader} {helpers awaited : List String}

theorem nil : Serves loader [] [] := ⟨by simp, by simp⟩

theorem append {moreHelpers moreAwaited : List String} (first : Serves loader helpers awaited)
    (second : Serves loader moreHelpers moreAwaited) :
    Serves loader (helpers ++ moreHelpers) (awaited ++ moreAwaited) where
  asked := by
    intro name waits
    rcases List.mem_append.mp waits with waits | waits
    · exact ⟨List.mem_append_left _ (first.asked name waits).1, (first.asked name waits).2⟩
    · exact ⟨List.mem_append_right _ (second.asked name waits).1,
        (second.asked name waits).2⟩
  settled := by
    intro name called
    rcases List.mem_append.mp called with called | called
    · exact (first.settled name called).imp (List.mem_append_left _) id
    · exact (second.settled name called).imp (List.mem_append_right _) id

theorem of_precedes (serves : Serves loader helpers awaited)
    (precedes : loader.Precedes later) : Serves later helpers awaited where
  asked := fun name waits =>
    ⟨(serves.asked name waits).1, precedes.asked name (serves.asked name waits).2⟩
  settled := fun name called => (serves.settled name called).imp id precedes.hasSettled

/-- Every helper of the template was asked for. -/
theorem isSome_arrival? (serves : Serves loader helpers awaited) (name : String)
    (called : name ∈ helpers) : (loader.arrival? name).isSome := by
  rcases serves.settled name called with waits | settled
  · exact (serves.asked name waits).2
  · cases here : loader.arrival? name with
    | none => rw [Loader.hasSettled, here] at settled; cases settled
    | some => rfl

/-- Places that were polled wait for fewer helpers, the others having settled. -/
theorem narrow {fewer : List String} (serves : Serves loader helpers awaited)
    (precedes : loader.Precedes later) (kept : ∀ name ∈ fewer, name ∈ awaited)
    (served : ∀ name ∈ awaited, name ∈ fewer ∨ later.hasSettled name = true) :
    Serves later helpers fewer where
  asked := fun name waits => (serves.of_precedes precedes).asked name (kept name waits)
  settled := by
    intro name called
    rcases serves.settled name called with waits | settled
    · exact served name waits
    · exact .inr (precedes.hasSettled settled)

end Serves

/-- What was asked for and had not settled has not settled in a loader that only
was asked for more. -/
theorem Fresh.of_grows {loader later : Loader} {awaited : List String}
    (fresh : Fresh loader awaited) (asked : ∀ name ∈ awaited, (loader.arrival? name).isSome)
    (grows : loader.Grows later) : Fresh later awaited := by
  intro name waits
  obtain ⟨arrival, here⟩ := Option.isSome_iff_exists.mp (asked name waits)
  have unsettled := fresh name waits
  rw [Loader.hasSettled_of_arrival? here] at unsettled
  rw [Loader.hasSettled_of_arrival? (grows name arrival here)]
  exact unsettled

theorem Fresh.append {loader : Loader} {first second : List String}
    (left : Fresh loader first) (right : Fresh loader second) :
    Fresh loader (first ++ second) := by
  intro name waits
  rcases List.mem_append.mp waits with waits | waits
  · exact left name waits
  · exact right name waits

/-- What a sketch of a template waits for was asked for and is on its way, and the
other helpers of the template are here. -/
structure Fits (loader : Loader) (helpers awaited : List String) : Prop where
  serves : Serves loader helpers awaited
  fresh : Fresh loader awaited

theorem Fits.nil {loader : Loader} : Fits loader [] [] :=
  ⟨Serves.nil, by intro name waits; cases waits⟩

/-- Two sketches made one after the other. -/
theorem Fits.append {between later : Loader} {helpers moreHelpers awaited moreAwaited : List String}
    (first : Fits between helpers awaited) (grows : between.Grows later)
    (second : Fits later moreHelpers moreAwaited) :
    Fits later (helpers ++ moreHelpers) (awaited ++ moreAwaited) where
  serves := (first.serves.of_precedes grows.precedes).append second.serves
  fresh := (first.fresh.of_grows (fun name waits => (first.serves.asked name waits).2)
    grows).append second.fresh

/-- What a poll of a sketch does: the loader makes progress, and of the helpers
waited for those that are not any more have settled.  If all had settled before, none
is waited for any more. -/
structure Narrows (loader later : Loader) (before after : List String) : Prop where
  precedes : loader.Precedes later
  kept : ∀ name ∈ after, name ∈ before
  served : ∀ name ∈ before, name ∈ after ∨ later.hasSettled name = true
  closes : (∀ name ∈ before, loader.hasSettled name = true) → after = []

theorem Narrows.nil (loader : Loader) : Narrows loader loader [] [] :=
  ⟨Loader.Precedes.refl loader, fun _ waits => waits, fun _ waits => .inl waits, fun _ => rfl⟩

/-- Two sketches polled one after the other. -/
theorem Narrows.append {loader between later : Loader}
    {before after moreBefore moreAfter : List String}
    (first : Narrows loader between before after)
    (second : Narrows between later moreBefore moreAfter) :
    Narrows loader later (before ++ moreBefore) (after ++ moreAfter) where
  precedes := first.precedes.trans second.precedes
  kept := by
    intro name waits
    rcases List.mem_append.mp waits with waits | waits
    · exact List.mem_append_left _ (first.kept name waits)
    · exact List.mem_append_right _ (second.kept name waits)
  served := by
    intro name waits
    rcases List.mem_append.mp waits with waits | waits
    · rcases first.served name waits with waits | settled
      · exact .inl (List.mem_append_left _ waits)
      · exact .inr (second.precedes.hasSettled settled)
    · exact (second.served name waits).imp (List.mem_append_right _) id
  closes := by
    intro settled
    rw [first.closes fun name waits => settled name (List.mem_append_left _ waits),
      second.closes fun name waits => first.precedes.hasSettled
        (settled name (List.mem_append_right _ waits))]
    rfl

theorem Serves.of_narrows {loader later : Loader}
    {helpers before after : List String} (serves : Serves loader helpers before)
    (narrows : Narrows loader later before after) : Serves later helpers after :=
  serves.narrow narrows.precedes narrows.kept narrows.served

namespace Sketch

variable {source : HelperSource} {scope : Scope}

/-! ## Sketching a template -/

/-- A relation that holds between loaders when helpers are asked for, one after the other. -/
structure Demands (source : HelperSource) (relation : Loader → Loader → Prop) : Prop where
  refl : ∀ loader, relation loader loader
  trans : ∀ {first second third}, relation first second → relation second third →
    relation first third
  demand : ∀ loader name, relation loader (loader.demand source name).1

/-- More helpers are asked for. -/
theorem demands_grows (source : HelperSource) : Demands source Loader.Grows :=
  ⟨Loader.Grows.refl, Loader.Grows.trans, Loader.demand_grows source⟩

section

variable {relation : Loader → Loader → Prop} (demands : Demands source relation)

include demands

theorem ofCall_relates (loader : Loader) (call : Call) :
    relation loader (ofCall source scope loader call).1 := by
  have demanded := demands.demand loader call.helper
  unfold ofCall
  split
  · exact demands.refl loader
  · split <;> rename_i answer <;> rw [answer] at demanded <;> exact demanded

mutual

/-- Sketching a template only asks for helpers, one after the other. -/
theorem ofTemplate_relates (loader : Loader) (template : Template) :
    relation loader (ofTemplate source scope loader template).1 := by
  cases template with
  | literal => exact demands.refl loader
  | lookup => exact demands.refl loader
  | invoke call => exact ofCall_relates demands loader call
  | array items =>
    have inner := ofItems_relates loader items
    unfold ofTemplate
    split <;> rename_i sketched <;> rw [sketched] at inner <;> exact inner
  | object fields =>
    have inner := ofFields_relates loader fields
    unfold ofTemplate
    split <;> rename_i sketched <;> rw [sketched] at inner <;> exact inner

theorem ofItems_relates (loader : Loader) (items : List Template) :
    relation loader (ofItems source scope loader items).1 := by
  cases items with
  | nil => exact demands.refl loader
  | cons item rest =>
    have first := ofTemplate_relates loader item
    unfold ofItems
    split <;> rename_i sketched <;> rw [sketched] at first
    · exact first
    · rename_i between _
      have second := ofItems_relates between rest
      split <;> rename_i others <;> rw [others] at second <;> exact demands.trans first second

theorem ofFields_relates (loader : Loader) (fields : List (String × Template)) :
    relation loader (ofFields source scope loader fields).1 := by
  match fields with
  | [] => exact demands.refl loader
  | (name, template) :: rest =>
    have first := ofTemplate_relates loader template
    unfold ofFields
    split <;> rename_i sketched <;> rw [sketched] at first
    · exact first
    · rename_i between _
      have second := ofFields_relates between rest
      split <;> rename_i others <;> rw [others] at second <;> exact demands.trans first second

end

end

theorem ofItems_grows (loader : Loader) (items : List Template) :
    loader.Grows (ofItems source scope loader items).1 :=
  ofItems_relates (demands_grows source) loader items

theorem ofFields_grows (loader : Loader) (fields : List (String × Template)) :
    loader.Grows (ofFields source scope loader fields).1 :=
  ofFields_relates (demands_grows source) loader fields

/-! ## Sketches that were made -/

section

variable {loader later : Loader}

/-- A call that was sketched has arguments, and its helper is here or on its way. -/
theorem exists_of_ofCall {call : Call} {sketch : Sketch}
    (sketched : ofCall source scope loader call = (later, .ok sketch)) :
    ∃ arguments, Arguments.evaluate scope call.arguments = .ok arguments ∧
      ((∃ helper, loader.demand source call.helper = (later, some (.ready helper)) ∧
          sketch = .known (helper arguments)) ∨
        ∃ arrival, loader.demand source call.helper = (later, some arrival) ∧
          arrival.isSettled = false ∧ sketch = .waiting ⟨call.helper, arguments⟩) := by
  unfold ofCall at sketched
  split at sketched
  · cases sketched
  · rename_i arguments evaluated
    refine ⟨arguments, evaluated, ?_⟩
    split at sketched <;> rename_i demanded
    · cases sketched
      exact .inl ⟨_, demanded, rfl⟩
    · cases sketched
    · rename_i arrival notReady notUnavailable
      cases sketched
      refine .inr ⟨arrival, demanded, ?_, rfl⟩
      cases arrival with
      | ready helper => exact (notReady helper rfl).elim
      | unavailable => exact (notUnavailable rfl).elim
      | awaited => rfl
      | arriving => rfl
    · cases sketched

theorem exists_of_ofArray {items : List Template} {sketch : Sketch}
    (sketched : ofTemplate source scope loader (.array items) = (later, .ok sketch)) :
    ∃ sketches, ofItems source scope loader items = (later, .ok sketches) ∧
      sketch = .array sketches := by
  unfold ofTemplate at sketched
  split at sketched
  · rename_i inner
    cases sketched
    exact ⟨_, inner, rfl⟩
  · cases sketched

theorem exists_of_ofObject {fields : List (String × Template)} {sketch : Sketch}
    (sketched : ofTemplate source scope loader (.object fields) = (later, .ok sketch)) :
    ∃ sketches, ofFields source scope loader fields = (later, .ok sketches) ∧
      sketch = .object sketches := by
  unfold ofTemplate at sketched
  split at sketched
  · rename_i inner
    cases sketched
    exact ⟨_, inner, rfl⟩
  · cases sketched

/-- The first item was sketched, and then the others, for which more helpers were asked. -/
theorem exists_of_ofItems {item : Template} {rest : List Template} {sketches : List Sketch}
    (sketched : ofItems source scope loader (item :: rest) = (later, .ok sketches)) :
    ∃ between sketch others, ofTemplate source scope loader item = (between, .ok sketch) ∧
      ofItems source scope between rest = (later, .ok others) ∧ between.Grows later ∧
      sketches = sketch :: others := by
  unfold ofItems at sketched
  split at sketched
  · cases sketched
  · rename_i between sketch first
    split at sketched
    · rename_i others second
      cases sketched
      have grows : between.Grows (ofItems source scope between rest).1 :=
        ofItems_grows between rest
      rw [second] at grows
      exact ⟨between, sketch, others, first, second, grows, rfl⟩
    · cases sketched

/-- It is the same with fields. -/
theorem exists_of_ofFields {name : String} {template : Template}
    {rest : List (String × Template)} {sketches : List (String × Sketch)}
    (sketched : ofFields source scope loader ((name, template) :: rest) =
      (later, .ok sketches)) :
    ∃ between sketch others, ofTemplate source scope loader template = (between, .ok sketch) ∧
      ofFields source scope between rest = (later, .ok others) ∧ between.Grows later ∧
      sketches = (name, sketch) :: others := by
  unfold ofFields at sketched
  split at sketched
  · cases sketched
  · rename_i between sketch first
    split at sketched
    · rename_i others second
      cases sketched
      have grows : between.Grows (ofFields source scope between rest).1 :=
        ofFields_grows between rest
      rw [second] at grows
      exact ⟨between, sketch, others, first, second, grows, rfl⟩
    · cases sketched

theorem ofCall_fits {call : Call} {sketch : Sketch}
    (sketched : ofCall source scope loader call = (later, .ok sketch)) :
    Fits later [call.helper] sketch.awaited := by
  obtain ⟨arguments, -, ⟨helper, demanded, rfl⟩ | ⟨arrival, demanded, unsettled, rfl⟩⟩ :=
    exists_of_ofCall sketched
  all_goals have here := Loader.arrival?_demand demanded
  · -- the helper is here
    refine ⟨⟨by simp [awaited], ?_⟩, by simp [awaited, Fresh]⟩
    intro name called
    rw [List.mem_singleton.mp called]
    exact .inr (Loader.hasSettled_of_arrival? here)
  · -- the helper is on its way
    refine ⟨⟨?_, fun name called => .inl called⟩, ?_⟩
    · intro name waits
      rw [List.mem_singleton.mp waits, here]
      exact ⟨by simp, rfl⟩
    · intro name waits
      rw [List.mem_singleton.mp waits, Loader.hasSettled_of_arrival? here]
      exact unsettled

end

mutual

theorem ofTemplate_fits {loader later : Loader} {template : Template} {sketch : Sketch}
    (sketched : ofTemplate source scope loader template = (later, .ok sketch)) :
    Fits later template.helpers sketch.awaited := by
  cases template with
  | literal => cases sketched; exact Fits.nil
  | lookup => cases sketched; exact Fits.nil
  | invoke call => exact ofCall_fits sketched
  | array items =>
    obtain ⟨sketches, inner, rfl⟩ := exists_of_ofArray sketched
    exact ofItems_fits inner
  | object fields =>
    obtain ⟨sketches, inner, rfl⟩ := exists_of_ofObject sketched
    exact ofFields_fits inner

theorem ofItems_fits {loader later : Loader} {items : List Template} {sketches : List Sketch}
    (sketched : ofItems source scope loader items = (later, .ok sketches)) :
    Fits later (Template.itemHelpers items) (itemsAwaited sketches) := by
  cases items with
  | nil => cases sketched; exact Fits.nil
  | cons item rest =>
    obtain ⟨between, sketch, others, first, second, grows, rfl⟩ := exists_of_ofItems sketched
    rw [Template.itemHelpers_cons, itemsAwaited]
    exact (ofTemplate_fits first).append grows (ofItems_fits second)

/-- Sketching the options of a template leaves open what is on its way, and nothing
else. -/
theorem ofFields_fits {loader later : Loader} {fields : List (String × Template)}
    {sketches : List (String × Sketch)}
    (sketched : ofFields source scope loader fields = (later, .ok sketches)) :
    Fits later (Template.fieldHelpers fields) (fieldsAwaited sketches) := by
  match fields with
  | [] => cases sketched; exact Fits.nil
  | (name, template) :: rest =>
    obtain ⟨between, sketch, others, first, second, grows, rfl⟩ := exists_of_ofFields sketched
    rw [Template.fieldHelpers_cons, fieldsAwaited]
    exact (ofTemplate_fits first).append grows (ofFields_fits second)

end

/-! ## Polling a sketch -/

theorem fst_pollCall (loader : Loader) (call : WaitingCall) :
    (pollCall loader call).1 = (loader.poll call.helper).1 := by
  unfold pollCall
  split <;> rename_i answer <;> rw [answer]

/-- A polled call is still open unless its helper has settled with the poll. -/
theorem awaited_pollCall (loader : Loader) (call : WaitingCall) :
    (pollCall loader call).2.awaited =
      if (loader.poll call.helper).1.hasSettled call.helper then [] else [call.helper] := by
  rw [Loader.hasSettled, ← Loader.snd_poll, pollCall]
  generalize loader.poll call.helper = answer
  obtain ⟨later, arrival⟩ := answer
  cases arrival with
  | none => rfl
  | some arrival => cases arrival <;> rfl

theorem pollCall_narrows (loader : Loader) (call : WaitingCall) :
    Narrows loader (pollCall loader call).1 [call.helper] (pollCall loader call).2.awaited := by
  have precedes := Loader.poll_precedes loader call.helper
  rw [fst_pollCall, awaited_pollCall]
  split
  · rename_i settled
    refine ⟨precedes, nofun, fun name waits => .inr ?_, fun _ => rfl⟩
    rw [List.mem_singleton.mp waits]
    exact settled
  · rename_i unsettled
    refine ⟨precedes, fun _ waits => waits, fun _ waits => .inl waits, fun settled => ?_⟩
    exact (unsettled (precedes.hasSettled
      (settled call.helper (List.mem_singleton.mpr rfl)))).elim

/-- A relation that holds between loaders and the helpers that are waited for, before and
after, when open places are polled, one after the other. -/
structure Polls (relation : Loader → Loader → List String → List String → Prop) : Prop where
  nil : ∀ loader, relation loader loader [] []
  append : ∀ {first second third before after moreBefore moreAfter},
    relation first second before after → relation second third moreBefore moreAfter →
      relation first third (before ++ moreBefore) (after ++ moreAfter)
  call : ∀ loader call, relation loader (pollCall loader call).1 [call.helper]
    (pollCall loader call).2.awaited

/-- Fewer helpers are waited for. -/
theorem polls_narrows : Polls Narrows := ⟨Narrows.nil, Narrows.append, pollCall_narrows⟩

section

variable {relation : Loader → Loader → List String → List String → Prop}
  (polls : Polls relation)

include polls

mutual

/-- A poll of a sketch is a poll of each of its open places, one after the other. -/
theorem poll_relates (loader : Loader) (sketch : Sketch) :
    relation loader (sketch.poll loader).1 sketch.awaited (sketch.poll loader).2.awaited := by
  cases sketch with
  | known => exact polls.nil loader
  | array items => exact pollItems_relates loader items
  | object fields => exact pollFields_relates loader fields
  | waiting waiting => exact polls.call loader waiting
  | failed => exact polls.nil loader

theorem pollItems_relates (loader : Loader) (items : List Sketch) :
    relation loader (pollItems loader items).1 (itemsAwaited items)
      (itemsAwaited (pollItems loader items).2) := by
  cases items with
  | nil => exact polls.nil loader
  | cons item rest =>
    exact polls.append (poll_relates loader item) (pollItems_relates (item.poll loader).1 rest)

theorem pollFields_relates (loader : Loader) (fields : List (String × Sketch)) :
    relation loader (pollFields loader fields).1 (fieldsAwaited fields)
      (fieldsAwaited (pollFields loader fields).2) := by
  match fields with
  | [] => exact polls.nil loader
  | (name, sketch) :: rest =>
    exact polls.append (poll_relates loader sketch) (pollFields_relates (sketch.poll loader).1 rest)

end

end

theorem pollItems_narrows (loader : Loader) (items : List Sketch) :
    Narrows loader (pollItems loader items).1 (itemsAwaited items)
      (itemsAwaited (pollItems loader items).2) :=
  pollItems_relates polls_narrows loader items

/-- One poll of options that wait: a place that is not open any more has had its
helper settle. -/
theorem pollFields_narrows (loader : Loader) (fields : List (String × Sketch)) :
    Narrows loader (pollFields loader fields).1 (fieldsAwaited fields)
      (fieldsAwaited (pollFields loader fields).2) :=
  pollFields_relates polls_narrows loader fields

end Sketch

/-! ## Where resolutions stand -/

namespace Resolution

variable {options still : PendingOptions}

/-- Options with an open place are pending. -/
theorem ofPending_of_open (isOpen : Sketch.fieldsAwaited options ≠ []) :
    ofPending options = .ok (.pending options) := by
  rw [ofPending, Sketch.fieldsWait_eq, if_pos]
  cases awaited : Sketch.fieldsAwaited options with
  | nil => exact (isOpen awaited).elim
  | cons => rfl

/-- Options without an open place are finished. -/
theorem ofPending_of_closed (closed : Sketch.fieldsAwaited options = []) :
    ofPending options = (PendingOptions.finish options).map .ready := by
  rw [ofPending, Sketch.fieldsWait_eq, closed]
  rfl

/-- Only options with an open place are pending. -/
theorem open_of_pending (stands : ofPending options = .ok (.pending still)) :
    still = options ∧ Sketch.fieldsAwaited options ≠ [] := by
  by_cases closed : Sketch.fieldsAwaited options = []
  · rw [ofPending_of_closed closed] at stands
    cases finished : PendingOptions.finish options <;> rw [finished] at stands <;> cases stands
  · rw [ofPending_of_open closed] at stands
    cases stands
    exact ⟨rfl, closed⟩

/-- Ready options had no open place. -/
theorem closed_of_ready {values : Fields Value}
    (stands : ofPending options = .ok (.ready values)) : Sketch.fieldsAwaited options = [] := by
  by_cases closed : Sketch.fieldsAwaited options = []
  · exact closed
  · rw [ofPending_of_open closed] at stands
    cases stands

end Resolution

/-- Where nothing is waited for every helper has settled. -/
theorem Serves.settled_of_closed {loader : Loader} {helpers : List String}
    (serves : Serves loader helpers []) (name : String) (called : name ∈ helpers) :
    loader.hasSettled name = true :=
  (serves.settled name called).resolve_left List.not_mem_nil

namespace Template

variable {source : HelperSource} {scope : Scope} {loader : Loader} {options : Fields Template}

/-- Resolving a template only asks for helpers, one after the other. -/
theorem resolve_relates {relation : Loader → Loader → Prop}
    (demands : Sketch.Demands source relation) (scope : Scope) (loader : Loader)
    (options : Fields Template) : relation loader (resolve source scope loader options).1 := by
  have relates : relation loader (Sketch.ofFields source scope loader options).1 :=
    Sketch.ofFields_relates demands loader options
  unfold resolve
  split <;> rename_i sketched <;> rw [sketched] at relates <;> exact relates

theorem resolve_grows (source : HelperSource) (scope : Scope) (loader : Loader)
    (options : Fields Template) : loader.Grows (resolve source scope loader options).1 :=
  resolve_relates (Sketch.demands_grows source) scope loader options

/-- Options that resolving leaves waiting are a first sketch with an open place. -/
theorem sketch_of_resolve {asked : Loader} {waiting : PendingOptions}
    (resolved : resolve source scope loader options = (asked, .ok (.pending waiting))) :
    Sketch.ofFields source scope loader options = (asked, .ok waiting) ∧
      Sketch.fieldsAwaited waiting ≠ [] := by
  unfold resolve at resolved
  split at resolved
  · rename_i later sketches sketched
    obtain ⟨same, isOpen⟩ := Resolution.open_of_pending (congrArg Prod.snd resolved)
    rw [sketched, same, show later = asked from congrArg Prod.fst resolved]
    exact ⟨rfl, isOpen⟩
  · cases resolved

/-- Where resolving a template is ready at once, all of its helpers have settled. -/
theorem settled_of_resolve {asked : Loader} {values : Fields Value}
    (resolved : resolve source scope loader options = (asked, .ok (.ready values)))
    (name : String) (called : name ∈ fieldHelpers options) :
    asked.hasSettled name = true := by
  unfold resolve at resolved
  split at resolved
  · rename_i later sketches sketched
    have serves := (Sketch.ofFields_fits sketched).serves
    rw [Resolution.closed_of_ready (congrArg Prod.snd resolved),
      show later = asked from congrArg Prod.fst resolved] at serves
    exact serves.settled_of_closed name called
  · cases resolved

end Template

namespace PendingOptions

/-- A poll lets the loads make progress. -/
theorem poll_precedes (loader : Loader) (options : PendingOptions) :
    loader.Precedes (options.poll loader).1 :=
  (Sketch.pollFields_narrows loader options).precedes

variable {loader later : Loader} {helpers : List String} {options : PendingOptions}

/-- Options that still wait after a poll wait for helpers that have not settled when
they were polled. -/
theorem serves_of_poll {still : PendingOptions}
    (serves : Serves loader helpers (Sketch.fieldsAwaited options))
    (polled : options.poll loader = (later, .ok (.pending still))) :
    Serves later helpers (Sketch.fieldsAwaited still) ∧ Sketch.fieldsAwaited still ≠ [] := by
  have narrowed := serves.of_narrows (Sketch.pollFields_narrows loader options)
  obtain ⟨same, isOpen⟩ := Resolution.open_of_pending (congrArg Prod.snd polled)
  rw [same, ← show (options.poll loader).1 = later from congrArg Prod.fst polled]
  exact ⟨narrowed, isOpen⟩

/-- Where a poll makes options ready, all of their helpers have settled. -/
theorem settled_of_poll {values : Fields Value}
    (serves : Serves loader helpers (Sketch.fieldsAwaited options))
    (polled : options.poll loader = (later, .ok (.ready values)))
    (name : String) (called : name ∈ helpers) : later.hasSettled name = true := by
  have narrowed := serves.of_narrows (Sketch.pollFields_narrows loader options)
  rw [Resolution.closed_of_ready (congrArg Prod.snd polled)] at narrowed
  rw [← show (options.poll loader).1 = later from congrArg Prod.fst polled]
  exact narrowed.settled_of_closed name called

/-- A poll does not leave options waiting whose helpers have all settled. -/
theorem not_pending_of_settled
    (settled : ∀ name ∈ Sketch.fieldsAwaited options, loader.hasSettled name = true)
    (still : PendingOptions) : (options.poll loader).2 ≠ .ok (.pending still) := by
  intro pending
  exact (Resolution.open_of_pending pending).2
    ((Sketch.pollFields_narrows loader options).closes settled)

end PendingOptions

end Choreography
