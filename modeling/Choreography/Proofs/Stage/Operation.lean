import Choreography.Stage.Input

/-!
# Operations

Everything that can be done to a stage from the outside, as data, so that a
statement can speak of all sequences of it.  What a sequence did is read off the
history: which runs of a binding were scheduled, were dispatched or failed, and how
often an engine played on its behalf.
-/

namespace Choreography

/-- One thing that is done to a stage. -/
inductive Operation where
  | apply (element : ElementId) (directive : Directive) (chain : Chain)
  | input (input : Input)
  | tick
  | lookup (name : String)
  | sequence (names : List String) (options : Fields Value)
  /-- The engine is asked directly, past all bindings. -/
  | animate (element : ElementId) (options : Fields Value)
  | followScroll (link : ScrollLink)
  | write (frame : FrameId) (name : String) (value : Value)
  | erase (frame : FrameId) (name : String)
  /-- From now on the source of helpers answers differently, to each run in its own way. -/
  | offer (source : HelperSupply)
  | deliver (name : String) (delivery : Option Helper)
  | clearDiagnostics

/-- Whether an operation is a tick. -/
def Operation.isTick : Operation → Bool
  | .tick => true
  | _ => false

/-- Whether an operation concerns no binding. -/
def Operation.isUnbound : Operation → Bool
  | .apply .. => false
  | .input _ => false
  | .tick => false
  | _ => true

namespace Stage

/-- The stage after an operation. -/
def perform (stage : Stage) : Operation → Stage
  | .apply element directive chain => (stage.apply element directive chain).1
  | .input input => stage.handle input
  | .tick => stage.tick.1
  | .lookup name => (stage.lookup name).1
  | .sequence names options => (stage.sequence names options).1
  | .animate element options => (stage.animate .direct element options).1
  | .followScroll link => stage.followScroll link
  | .write frame name value => stage.write frame name value
  | .erase frame name => stage.erase frame name
  | .offer source => stage.offer source
  | .deliver name delivery => (stage.deliver? name delivery).getD stage
  | .clearDiagnostics => stage.clearDiagnostics

/-- The binding that an operation tells of a change of its data. -/
def told? (stage : Stage) : Operation → Option BindingId
  | .input (.sourceChanged subscription) => stage.subscriber? subscription
  | _ => none

/-- The stage after a sequence of operations. -/
def performAll (stage : Stage) (operations : List Operation) : Stage :=
  operations.foldl perform stage

@[simp] theorem performAll_nil (stage : Stage) : stage.performAll [] = stage := rfl

@[simp] theorem performAll_cons (stage : Stage) (operation : Operation)
    (rest : List Operation) :
    stage.performAll (operation :: rest) = (stage.perform operation).performAll rest := rfl

theorem performAll_append (stage : Stage) (first second : List Operation) :
    stage.performAll (first ++ second) = (stage.performAll first).performAll second :=
  List.foldl_append

/-- What was kept before is not seen by the log. -/
theorem foldl_log_keep (stage : Stage) (kept diagnostics : List Diagnostic) :
    diagnostics.foldl log (stage.keep kept) = (diagnostics.foldl log stage).keep kept := by
  induction diagnostics generalizing stage with
  | nil => rfl
  | cons diagnostic rest ih => exact ih (stage.log diagnostic)

theorem keep_keep (stage : Stage) (first second : List Diagnostic) :
    (stage.keep first).keep second = stage.keep (first ++ second) := by
  rw [keep, keep, keep, List.append_assoc]

theorem keep_nil (stage : Stage) : stage.keep [] = stage := by
  rw [keep, List.append_nil]

/-- **Diagnostics that are kept together** after they were logged one by one are as good as
reported in turn: none is logged or kept twice. -/
theorem absorb_eq_reportAll (stage : Stage) (diagnostics : List Diagnostic) :
    stage.absorb diagnostics = stage.reportAll diagnostics := by
  induction diagnostics generalizing stage with
  | nil => exact keep_nil stage
  | cons diagnostic rest ih =>
    calc
      stage.absorb (diagnostic :: rest) =
          ((rest.foldl log (stage.log diagnostic)).keep [diagnostic]).keep rest :=
        (keep_keep _ [diagnostic] rest).symm
      _ = (stage.report diagnostic).absorb rest := by
        rw [← foldl_log_keep]
        rfl
      _ = stage.reportAll (diagnostic :: rest) := ih (stage.report diagnostic)

/-- A tick without waiting runs changes nothing. -/
theorem tick_of_idle {stage : Stage} (idle : stage.pending = []) : stage.tick.1 = stage := by
  obtain ⟨settings, data, source, loader, registry, bindings, subscribers, listeners, pending,
    diagnostics, bindingCount, subscriptionCount, handleCount, runCount, history⟩ := stage
  obtain rfl : pending = [] := idle
  rfl

/-- So a number of ticks may as well go on when nothing waits any more. -/
theorem ticks_eq_performAll (stage : Stage) (count : Nat) :
    stage.ticks count = stage.performAll (List.replicate count .tick) := by
  induction count generalizing stage with
  | zero => rfl
  | succ count ih =>
    rw [ticks, List.replicate_succ, performAll_cons, ← ih]
    split
    · rename_i idle
      rw [List.isEmpty_iff] at idle
      have same : stage.perform .tick = stage := tick_of_idle idle
      rw [same]
      cases count <;> simp [ticks, idle]
    · rfl

end Stage

/-! ## Reading the history -/

namespace Event

/-- The run of a binding that an event schedules. -/
def scheduledRun? (id : BindingId) : Event → Option RunId
  | .scheduled run binding _ => if binding = id then some run else none
  | _ => none

/-- The run of a binding that an event dispatches. -/
def dispatchedRun? (id : BindingId) : Event → Option RunId
  | .dispatched run binding _ _ _ => if binding = id then some run else none
  | _ => none

/-- The run of a binding that ends with an error in an event. -/
def failedRun? (id : BindingId) : Event → Option RunId
  | .failed run binding _ => if binding = id then some run else none
  | _ => none

/-- Whether an event is a play on behalf of a binding. -/
def playsFor (id : BindingId) : Event → Bool
  | .animated (.run _ binding _) _ _ _ => binding = id
  | _ => false

/-- Whether an event neither schedules nor dispatches nor fails a run. -/
def isAside : Event → Bool
  | .scheduled .. => false
  | .dispatched .. => false
  | .failed .. => false
  | _ => true

/-- Whether an event is also no play on behalf of a binding. -/
def isIdle : Event → Bool
  | .animated (.run ..) .. => false
  | event => event.isAside

theorem isAside_of_isIdle {event : Event} (idle : event.isIdle = true) :
    event.isAside = true := by
  cases event <;> first | rfl | cases idle

theorem playsFor_of_isIdle {event : Event} (idle : event.isIdle = true) (id : BindingId) :
    event.playsFor id = false := by
  cases event with
  | animated cause =>
    cases cause with
    | run => cases idle
    | replay => rfl
    | direct => rfl
  | _ => rfl

end Event

/-- The runs of a binding that were scheduled, the first one first. -/
def scheduledRuns (id : BindingId) (history : List Event) : List RunId :=
  history.reverse.filterMap (Event.scheduledRun? id)

/-- The runs of a binding that were dispatched, the first one first. -/
def dispatchedRuns (id : BindingId) (history : List Event) : List RunId :=
  history.reverse.filterMap (Event.dispatchedRun? id)

/-- The runs of a binding that ended with an error, the first one first. -/
def failedRuns (id : BindingId) (history : List Event) : List RunId :=
  history.reverse.filterMap (Event.failedRun? id)

/-- How often an engine played on behalf of a binding. -/
def playsFor (id : BindingId) (history : List Event) : Nat :=
  history.countP (Event.playsFor id)

section

variable {events history : List Event}

/-- The events since a moment are those that the history has grown by. -/
theorem Stage.eventsSince_of_append {before after : Stage}
    (added : after.history = events ++ before.history) :
    after.eventsSince before.history.length = events.reverse := by
  rw [eventsSince, added, List.length_append, Nat.add_sub_cancel, List.take_left]

/-- Reading a history that has grown by events none of which counts. -/
theorem filterMap_reverse_append {α : Type} {read : Event → Option α}
    (silent : ∀ event ∈ events, read event = none) :
    (events ++ history).reverse.filterMap read = history.reverse.filterMap read := by
  have none : events.reverse.filterMap read = [] := by
    refine List.filterMap_eq_nil_iff.mpr ?_
    intro event here
    exact silent event (List.mem_reverse.mp here)
  rw [List.reverse_append, List.filterMap_append, none, List.append_nil]

theorem filterMap_singleton {α : Type} (read : Event → Option α) (event : Event) :
    [event].filterMap read = (read event).toList := by
  rw [List.filterMap_cons, List.filterMap_nil]
  cases read event <;> rfl

theorem scheduledRuns_append (id : BindingId)
    (aside : ∀ event ∈ events, event.isAside = true) :
    scheduledRuns id (events ++ history) = scheduledRuns id history := by
  refine filterMap_reverse_append ?_
  intro event here
  have kind := aside event here
  cases event <;> first | rfl | cases kind

theorem dispatchedRuns_append (id : BindingId)
    (aside : ∀ event ∈ events, event.isAside = true) :
    dispatchedRuns id (events ++ history) = dispatchedRuns id history := by
  refine filterMap_reverse_append ?_
  intro event here
  have kind := aside event here
  cases event <;> first | rfl | cases kind

theorem failedRuns_append (id : BindingId)
    (aside : ∀ event ∈ events, event.isAside = true) :
    failedRuns id (events ++ history) = failedRuns id history := by
  refine filterMap_reverse_append ?_
  intro event here
  have kind := aside event here
  cases event <;> first | rfl | cases kind

theorem playsFor_append (id : BindingId)
    (idle : ∀ event ∈ events, event.isIdle = true) :
    playsFor id (events ++ history) = playsFor id history := by
  rw [playsFor, List.countP_append, List.countP_eq_zero.mpr, Nat.zero_add]
  · rfl
  · intro event here
    simp [Event.playsFor_of_isIdle (idle event here)]

theorem scheduledRuns_cons (id : BindingId) (event : Event) :
    scheduledRuns id (event :: history) =
      scheduledRuns id history ++ (event.scheduledRun? id).toList := by
  rw [scheduledRuns, List.reverse_cons, List.filterMap_append, filterMap_singleton]
  rfl

theorem dispatchedRuns_cons (id : BindingId) (event : Event) :
    dispatchedRuns id (event :: history) =
      dispatchedRuns id history ++ (event.dispatchedRun? id).toList := by
  rw [dispatchedRuns, List.reverse_cons, List.filterMap_append, filterMap_singleton]
  rfl

theorem failedRuns_cons (id : BindingId) (event : Event) :
    failedRuns id (event :: history) =
      failedRuns id history ++ (event.failedRun? id).toList := by
  rw [failedRuns, List.reverse_cons, List.filterMap_append, filterMap_singleton]
  rfl

end

end Choreography
