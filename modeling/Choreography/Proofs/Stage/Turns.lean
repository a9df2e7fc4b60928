import Choreography.Proofs.Stage.Accounts
import Choreography.Proofs.Stage.Sound

/-!
# Turns

A run goes on in turns: the first when it is scheduled, and another at each tick while it waits.
A turn resolves the options on the stage as it stands; then the run is dispatched, waits or has
failed.  Here the turns are listed that operations lead through (`turns`, `turnsAll`).

**Nothing that a run does is outside of its turns** (`performAll_passage`): an operation is a
passage from one turn to the next, and in between only what concerns no run is recorded.  So
what every turn adds to the history is all that runs ever add (`Passage.gather_eq`).
-/

namespace Choreography

/-- Whether an event is nothing that a run does: no schedule and no end of a run, and neither a
play nor a linked scroll position of one. -/
def Event.isOutside : Event → Bool
  | .linkedScroll .. => false
  | event => event.isIdle

namespace Event

variable {event : Event}

theorem isOutside_of_isUnbound (unbound : event.isUnbound = true) : event.isOutside = true := by
  have idle := isIdle_of_isUnbound unbound
  cases event <;> first | exact idle | cases unbound

theorem isOutside_of_isEnding (ending : event.isEnding = true) : event.isOutside = true := by
  cases event <;> first | rfl | cases ending

theorem isOutside_of_isBeginning (beginning : event.isBeginning = true) :
    event.isOutside = true := by
  cases event <;> first | rfl | cases beginning

end Event

namespace Stage

/-- One turn of a run of a binding, with the stage just before it. -/
inductive Turn where
  /-- The run is scheduled. -/
  | first (stage : Stage) (binding : Binding) (reason : RunReason)
  /-- The run has waited and is polled; a tick has still to poll the queue. -/
  | again (stage : Stage) (binding : Binding) (waiting : PendingRun) (queue : List PendingRun)

namespace Turn

/-- The stage just before a turn. -/
def before : Turn → Stage
  | .first stage _ _ => stage
  | .again stage _ _ _ => stage

/-- The binding whose run has a turn. -/
def binding : Turn → Binding
  | .first _ binding _ => binding
  | .again _ binding _ _ => binding

/-- The run that has a turn. -/
def run : Turn → RunId
  | .first stage _ _ => stage.runCount + 1
  | .again _ _ waiting _ => waiting.run

/-- Why the run was scheduled. -/
def reason : Turn → RunReason
  | .first _ _ reason => reason
  | .again _ _ waiting _ => waiting.reason

/-- The run as it has waited, unless this is its first turn. -/
def waiting? : Turn → Option PendingRun
  | .first .. => none
  | .again _ _ waiting _ => some waiting

/-- The stage on which the options were just resolved. -/
def resolved : Turn → Stage
  | .first stage binding reason => stage.start binding reason
  | .again stage _ waiting _ => stage.polled waiting

/-- What the resolution of the options has come to. -/
def outcome : Turn → Except ResolveError Resolution
  | .first stage binding _ => (stage.resolve binding).2
  | .again stage _ waiting _ => (waiting.options.poll stage.loader).2

/-- The stage after a turn, and the number of plays that it counts. -/
def result (turn : Turn) : Stage × Nat :=
  turn.resolved.advance turn.run turn.binding turn.reason turn.outcome

/-- The stage after a turn. -/
def after (turn : Turn) : Stage := turn.result.1

/-- The number of plays that a turn counts. -/
def plays (turn : Turn) : Nat := turn.result.2

/-- What is recorded before the options are resolved. -/
def opening : Turn → List Event
  | .first stage binding reason => [.scheduled (stage.runCount + 1) binding.id reason]
  | .again .. => []

/-- A turn whose binding is in force. -/
def Found (turn : Turn) : Prop :=
  turn.before.binding? turn.binding.id = some turn.binding

variable {turn : Turn}

theorem history_resolved (turn : Turn) :
    turn.resolved.history = turn.opening ++ turn.before.history := by
  cases turn <;> rfl

/-- What is read off the history, and is no schedule, is the same once the options are
resolved. -/
theorem gather_resolved {α : Type} {read : Event → Option α}
    (silent : ∀ run id reason, read (.scheduled run id reason) = none) (turn : Turn) :
    gather read turn.resolved.history = gather read turn.before.history := by
  rw [turn.history_resolved]
  refine gather_append_of_silent fun event here => ?_
  cases turn with
  | first stage binding reason =>
    rw [List.mem_singleton.mp here]
    exact silent _ _ _
  | again => cases here

/-- Resolving options changes neither the bindings nor what they are found by. -/
theorem Found.resolved (found : turn.Found) :
    turn.resolved.binding? turn.binding.id = some turn.binding := by
  cases turn <;> exact found

end Turn

/-! ## The turns of an operation -/

/-- The turn of a run that is scheduled for a binding, if that is in force. -/
def scheduleTurns (stage : Stage) (id : BindingId) (reason : RunReason) : List Turn :=
  (stage.binding? id).toList.map fun binding => .first stage binding reason

/-- The turn of a waiting run that a tick polls, if its binding is in force. -/
def pollTurns (state : Stage × Nat) (waiting : PendingRun) (queue : List PendingRun) :
    List Turn :=
  (state.1.binding? waiting.binding).toList.map fun binding =>
    .again state.1 binding waiting queue

/-- The turn of an animation that is installed. -/
def installTurns (label : String) (chain : Chain) (state : Stage × List BindingId)
    (animation : Animation) : List Turn :=
  let (stage, id) := state.1.bind label animation chain
  stage.scheduleTurns id .initial

/-- The turn of a binding whose element enters the view. -/
def enterTurns (stage : Stage) (binding : Binding) : List Turn :=
  (stage.lookAt binding).scheduleTurns binding.id .enteredView

/-- The turns of steps that are taken for one thing after the other, where the turns of a step
may depend on what is still to come. -/
def turnsAlong {σ α : Type} (step : σ → α → σ) (turns : σ → α → List α → List Turn) :
    List α → σ → List Turn
  | [], _ => []
  | thing :: rest, state => turns state thing rest ++ turnsAlong step turns rest (step state thing)

/-- The turns that an operation leads through, in order. -/
def turns (stage : Stage) : Operation → List Turn
  | .apply element directive chain =>
    let label := directive.label stage.settings.directiveStart
    let released := stage.release fun binding =>
      binding.element = element && binding.label = label
    let compiled := directive.compile (released.data.scope chain) element label
    turnsAlong (install label chain) (fun state animation _ => installTurns label chain state
      animation) compiled.result (released.absorb compiled.diagnostics, [])
  | .input (.sourceChanged subscription) =>
    (stage.subscriber? subscription).toList.flatMap fun id => stage.scheduleTurns id .sourceChanged
  | .input (.enteredView element) =>
    turnsAlong enter (fun stage binding _ => stage.enterTurns binding)
      (stage.bindings.filter fun binding =>
        binding.element = element && respondsToView stage.settings binding.view) stage
  | .tick => turnsAlong pollRun pollTurns stage.pending (stage.takeUp, 0)
  | _ => []

/-- The turns that a sequence of operations leads through, in order. -/
def turnsAll (stage : Stage) : List Operation → List Turn
  | [] => []
  | operation :: rest => stage.turns operation ++ (stage.perform operation).turnsAll rest

/-! ## Passages -/

/-- A way from one stage to another through turns, one after the other.  In between nothing is
recorded that a run does. -/
inductive Passage : List Turn → Stage → Stage → Prop
  | outside {before after : Stage} (adds : Adds Event.isOutside before after) :
    Passage [] before after
  | turn {before after : Stage} {turn : Turn} {rest : List Turn}
    (adds : Adds Event.isOutside before turn.before) (found : turn.Found)
    (goesOn : Passage rest turn.after after) : Passage (turn :: rest) before after

section

variable {first second third : Stage} {turns more : List Turn}

/-- Nothing that a run does happens before a passage that does not belong to it. -/
theorem Passage.of_adds (adds : Adds Event.isOutside first second)
    (passage : Passage turns second third) : Passage turns first third := by
  cases passage with
  | outside later => exact .outside (adds.trans later)
  | turn later found goesOn => exact .turn (adds.trans later) found goesOn

theorem Passage.trans (early : Passage turns first second) (late : Passage more second third) :
    Passage (turns ++ more) first third := by
  induction early with
  | outside adds => exact late.of_adds adds
  | turn adds found _ ih => exact .turn adds found (ih late)

theorem Passage.refl (stage : Stage) : Passage [] stage stage := .outside (Adds.refl _ stage)

theorem Passage.found (passage : Passage turns first second) {turn : Turn}
    (here : turn ∈ turns) : turn.Found := by
  induction passage with
  | outside adds => cases here
  | turn adds found _ ih =>
    rcases List.mem_cons.mp here with rfl | here
    · exact found
    · exact ih here

/-- What is read off the history, and is nothing outside of turns, is what the turns add. -/
theorem Passage.gather_eq {α : Type} {read : Event → Option α} {part : Turn → List α}
    (silent : ∀ event, Event.isOutside event = true → read event = none)
    (adds : ∀ turn : Turn, turn.Found →
      gather read turn.after.history = gather read turn.before.history ++ part turn)
    (passage : Passage turns first second) :
    gather read second.history = gather read first.history ++ turns.flatMap part := by
  have between {before after : Stage} (outside : Adds Event.isOutside before after) :
      gather read after.history = gather read before.history := by
    obtain ⟨events, kinds, added⟩ := outside
    rw [added, gather_append_of_silent fun event here => silent event (kinds event here)]
  induction passage with
  | outside outside => rw [between outside, List.flatMap_nil, List.append_nil]
  | turn outside found _ ih =>
    rw [ih, adds _ found, between outside, List.flatMap_cons, List.append_assoc]

/-- What is kept outside of turns and by every turn is kept by a passage. -/
theorem Passage.invariant (holds : Stage → Prop)
    (outside : ∀ before after, Adds Event.isOutside before after → holds before → holds after)
    (turned : ∀ turn : Turn, turn.Found → holds turn.before → holds turn.after)
    (passage : Passage turns first second) (begun : holds first) : holds second := by
  induction passage with
  | outside adds => exact outside _ _ adds begun
  | turn adds found _ ih => exact ih (turned _ found (outside _ _ adds begun))

end

/-- A turn is a passage of its own. -/
theorem Turn.Found.passage {turn : Turn} (found : turn.Found) :
    Passage [turn] turn.before turn.after :=
  .turn (Adds.refl _ turn.before) found (.refl turn.after)

/-- A schedule is the first turn of a run, if it finds the binding. -/
theorem schedule_passage (stage : Stage) (id : BindingId) (reason : RunReason) :
    Passage (stage.scheduleTurns id reason) stage (stage.schedule id reason).1 := by
  unfold scheduleTurns
  cases found : stage.binding? id with
  | none =>
    rw [schedule_of_none found]
    exact .refl stage
  | some binding =>
    obtain ⟨-, rfl⟩ := mem_bindings_of_binding? found
    rw [schedule_eq found]
    have isFound : (Turn.first stage binding reason).Found := found
    exact isFound.passage

/-- A poll drops a run whose binding is not in force, and is one more turn of any other. -/
theorem pollRun_turn (state : Stage × Nat) (waiting : PendingRun) (queue : List PendingRun) :
    (pollTurns state waiting queue = [] ∧
      pollRun state waiting =
        (state.1.record (.dropped waiting.run waiting.binding), state.2)) ∨
    ∃ binding, (Turn.again state.1 binding waiting queue).Found ∧
      pollTurns state waiting queue = [.again state.1 binding waiting queue] ∧
      pollRun state waiting = ((Turn.again state.1 binding waiting queue).after,
        state.2 + (Turn.again state.1 binding waiting queue).plays) := by
  unfold pollTurns pollRun
  dsimp only
  cases found : state.1.binding? waiting.binding with
  | none => exact .inl ⟨rfl, rfl⟩
  | some binding =>
    refine .inr ⟨binding, ?_, rfl, rfl⟩
    show state.1.binding? binding.id = some binding
    rw [(mem_bindings_of_binding? found).2]
    exact found

theorem pollRun_passage (state : Stage × Nat) (waiting : PendingRun) (queue : List PendingRun) :
    Passage (pollTurns state waiting queue) state.1 (pollRun state waiting).1 := by
  rcases pollRun_turn state waiting queue with ⟨none, dropped⟩ | ⟨binding, found, one, polled⟩
  · rw [none, dropped]
    have kind : (Event.dropped waiting.run waiting.binding).isOutside = true := rfl
    exact .outside (.single kind rfl)
  · rw [one, polled]
    exact found.passage

theorem install_passage (label : String) (chain : Chain) (state : Stage × List BindingId)
    (animation : Animation) :
    Passage (installTurns label chain state animation) state.1
      (install label chain state animation).1 :=
  .of_adds ((bind_binds state.1 label animation chain).adds.mono
    fun _ => Event.isOutside_of_isBeginning) (schedule_passage _ _ .initial)

theorem enter_passage (stage : Stage) (binding : Binding) :
    Passage (stage.enterTurns binding) stage (stage.enter binding) :=
  .of_adds ((lookAt_looks stage binding).adds.mono fun _ => Event.isOutside_of_isEnding)
    (schedule_passage _ _ .enteredView)

/-- Steps that are passages are one when they are taken one after the other. -/
theorem foldl_passage {σ α : Type} (view : σ → Stage) {step : σ → α → σ}
    {turns : σ → α → List α → List Turn}
    (stepped : ∀ state thing rest,
      Passage (turns state thing rest) (view state) (view (step state thing)))
    (things : List α) (state : σ) :
    Passage (turnsAlong step turns things state) (view state) (view (things.foldl step state)) := by
  induction things generalizing state with
  | nil => exact .refl _
  | cons thing rest ih => exact (stepped state thing rest).trans (ih (step state thing))

/-- Releasing bindings is nothing that a run does. -/
theorem release_outside (stage : Stage) (chosen : Binding → Bool) :
    Adds Event.isOutside stage (stage.release chosen) :=
  (release_releases stage chosen).adds.mono fun _ => Event.isOutside_of_isEnding

/-- **An operation is a passage through its turns.** -/
theorem perform_passage (stage : Stage) (operation : Operation) :
    Passage (stage.turns operation) stage (stage.perform operation) := by
  cases operation with
  | apply element directive chain =>
    let label := directive.label stage.settings.directiveStart
    let released := stage.release fun binding =>
      binding.element = element && binding.label = label
    let compiled := directive.compile (released.data.scope chain) element label
    have absorbed : Adds Event.isOutside released (released.absorb compiled.diagnostics) :=
      (absorb_passes released _).adds.mono fun _ => Event.isOutside_of_isUnbound
    exact .of_adds ((release_outside stage _).trans absorbed)
      (foldl_passage Prod.fst (fun state animation _ => install_passage label chain state animation)
        compiled.result (released.absorb compiled.diagnostics, []))
  | input input =>
    cases input with
    | sourceChanged subscription =>
      show Passage ((stage.subscriber? subscription).toList.flatMap _) stage
        (stage.handle (.sourceChanged subscription))
      unfold handle
      dsimp only
      cases stage.subscriber? subscription with
      | none => exact .refl stage
      | some id =>
        rw [Option.toList_some, List.flatMap_cons, List.flatMap_nil, List.append_nil]
        exact schedule_passage stage id .sourceChanged
    | enteredView element =>
      exact foldl_passage id (fun stage binding _ => stage.enter_passage binding) _ stage
    | teardown element =>
      have kind : (Event.tornDown element).isOutside = true := rfl
      exact .outside ((release_outside stage _).trans (.single kind rfl))
  | tick =>
    have begun : Adds Event.isOutside stage stage.takeUp := Adds.refl _ stage
    exact .of_adds begun
      (foldl_passage Prod.fst pollRun_passage stage.pending (stage.takeUp, 0))
  | _ =>
    exact .outside ((perform_passes stage rfl).adds.mono fun _ => Event.isOutside_of_isUnbound)

/-- **Any operations are a passage through their turns.** -/
theorem performAll_passage (stage : Stage) (operations : List Operation) :
    Passage (stage.turnsAll operations) stage (stage.performAll operations) := by
  induction operations generalizing stage with
  | nil => exact .refl stage
  | cons operation rest ih =>
    exact (perform_passage stage operation).trans (ih (stage.perform operation))

/-! ## Runs that wait on -/

/-- The run of a binding as it waits, if its options are to wait. -/
def remainderOf? (run : RunId) (id : BindingId) (reason : RunReason) :
    Except ResolveError Resolution → Option PendingRun
  | .ok (.pending options) => some ⟨run, id, reason, options⟩
  | _ => none

theorem remainderOf?_binding {run : RunId} {id : BindingId} {reason : RunReason}
    {outcome : Except ResolveError Resolution} {waiting : PendingRun}
    (waits : remainderOf? run id reason outcome = some waiting) : waiting.binding = id := by
  match outcome with
  | .ok (.pending options) =>
    cases waits
    rfl

/-- A run that goes on waits on if its options do, and the others wait as they did. -/
theorem pending_of_advance {stage : Stage} {binding : Binding}
    (found : stage.binding? binding.id = some binding) (run : RunId) (reason : RunReason)
    (outcome : Except ResolveError Resolution) :
    (stage.advance run binding reason outcome).1.pending =
      stage.pending ++ (remainderOf? run binding.id reason outcome).toList := by
  match outcome with
  | .ok (.ready resolved) =>
    exact (dispatch_dispatches found run reason resolved).keeps.pending.trans
      (List.append_nil _).symm
  | .ok (.pending options) => rfl
  | .error error => exact (List.append_nil _).symm

/-- The run that has a turn as it waits after it, if it does. -/
def Turn.remainder? (turn : Turn) : Option PendingRun :=
  remainderOf? turn.run turn.binding.id turn.reason turn.outcome

/-- A turn leaves the other runs waiting as they did. -/
theorem Turn.Found.pending {turn : Turn} (found : turn.Found) :
    turn.after.pending = turn.before.pending ++ turn.remainder?.toList := by
  have resolved : turn.resolved.pending = turn.before.pending := by
    cases turn <;> rfl
  rw [← resolved]
  exact pending_of_advance found.resolved turn.run turn.reason turn.outcome

/-! ## The turns of a tick -/

/-- **Every waiting run has a turn at a tick**, in the order of the schedule. -/
theorem map_waiting?_turns {stage : Stage} (sound : Sound stage []) :
    (stage.turns .tick).map Turn.waiting? = stage.pending.map some := by
  suffices polled : ∀ (queue : List PendingRun) (state : Stage × Nat), Sound state.1 queue →
      (turnsAlong pollRun pollTurns queue state).map Turn.waiting? = queue.map some from
    polled stage.pending (stage.takeUp, 0) (takeUp_sound sound)
  intro queue
  induction queue with
  | nil => exact fun _ _ => rfl
  | cons waiting queue ih =>
    intro state sound
    obtain ⟨binding, found, -⟩ := sound.binding?_head
    have turn : pollTurns state waiting queue = [.again state.1 binding waiting queue] := by
      rw [pollTurns, found]
      rfl
    rw [turnsAlong, turn, List.map_append, ih _ (pollRun_sound sound state.2)]
    rfl

/-- After a tick those runs wait that a turn of the tick has left waiting. -/
theorem pending_tick (stage : Stage) :
    stage.tick.1.pending = (stage.turns .tick).filterMap Turn.remainder? := by
  suffices polled : ∀ (queue : List PendingRun) (state : Stage × Nat),
      (queue.foldl pollRun state).1.pending = state.1.pending ++
        (turnsAlong pollRun pollTurns queue state).filterMap Turn.remainder? from
    polled stage.pending (stage.takeUp, 0)
  intro queue
  induction queue with
  | nil => exact fun state => (List.append_nil _).symm
  | cons waiting queue ih =>
    intro state
    have step : (pollRun state waiting).1.pending = state.1.pending ++
        (pollTurns state waiting queue).filterMap Turn.remainder? := by
      rcases pollRun_turn state waiting queue with ⟨none, dropped⟩ | ⟨binding, found, one, polled⟩
      · rw [none, dropped]
        exact (List.append_nil _).symm
      · rw [one, polled, List.filterMap_eq_flatMap_toList, List.flatMap_singleton]
        exact found.pending
    rw [List.foldl_cons, ih, step, turnsAlong, List.filterMap_append, List.append_assoc]

end Stage

end Choreography
