import Choreography.Helper.Catalogue
import Choreography.Proofs.Stage.Ledger
import Choreography.Proofs.Stage.Turns

/-!
# Runs that fail

A turn of a run can fail when the run is scheduled and at any later tick, at any place of its
template, and in a tick between the turns of other runs.  **It leaves no trace but its
diagnostic** (`failed_runs_leave_no_trace`): the engine is asked for nothing, nothing is
registered or written to any binding, the other runs wait as they did, and one error is reported
under the label of the animation.  Helpers that were asked for on the way stay asked for.

A tick goes on after a failure: every waiting run still has its turn (`map_waiting?_turns`).
-/

namespace Choreography

theorem Event.failed?_of_isOutside {event : Event} (outside : event.isOutside = true) :
    event.failed? = none := by
  cases event <;> first | rfl | cases outside

namespace Stage

/-! ## What a turn comes to -/

/-- The failure of a run of a binding, if the outcome is one. -/
def failureOf? (run : RunId) (id : BindingId) :
    Except ResolveError Resolution → Option (RunId × BindingId × ResolveError)
  | .error error => some (run, id, error)
  | .ok _ => none

/-- The failure of the run that has a turn, if it fails. -/
def Turn.failure? (turn : Turn) : Option (RunId × BindingId × ResolveError) :=
  failureOf? turn.run turn.binding.id turn.outcome

/-- A turn with a failure has an error for its outcome. -/
theorem Turn.outcome_of_failure? {turn : Turn} {run : RunId} {id : BindingId}
    {error : ResolveError} (fails : turn.failure? = some (run, id, error)) :
    turn.run = run ∧ turn.outcome = .error error := by
  unfold Turn.failure? at fails
  cases outcome : turn.outcome with
  | ok resolution =>
    rw [outcome] at fails
    cases fails
  | error lost =>
    rw [outcome] at fails
    cases fails
    exact ⟨rfl, rfl⟩

/-- A run that goes on fails if its outcome is an error, and no other run does. -/
theorem gather_failed?_advance {stage : Stage} {binding : Binding}
    (found : stage.binding? binding.id = some binding) (run : RunId) (reason : RunReason)
    (outcome : Except ResolveError Resolution) :
    gather Event.failed? (stage.advance run binding reason outcome).1.history =
      gather Event.failed? stage.history ++ (failureOf? run binding.id outcome).toList := by
  match outcome with
  | .ok (.ready resolved) =>
    exact (dispatch_dispatches found run reason resolved).gather_eq
      fun _ => Event.failed?_of_isNoStep
  | .ok (.pending options) => exact (List.append_nil _).symm
  | .error error => exact (fail_reports stage run binding.id _ error).failed

theorem Turn.Found.gather_failed? {turn : Turn} (found : turn.Found) :
    gather Event.failed? turn.after.history =
      gather Event.failed? turn.before.history ++ turn.failure?.toList := by
  rw [← turn.gather_resolved fun _ _ _ => rfl]
  exact gather_failed?_advance found.resolved turn.run turn.reason turn.outcome

/-- **The failures on record are those of the turns**, in order. -/
theorem Passage.gather_failed? {turns : List Turn} {first second : Stage}
    (passage : Passage turns first second) :
    gather Event.failed? second.history =
      gather Event.failed? first.history ++ turns.filterMap Turn.failure? := by
  rw [passage.gather_eq (fun _ => Event.failed?_of_isOutside) fun _ found =>
    found.gather_failed?, List.filterMap_eq_flatMap_toList]

/-! ## Failed turns -/

/-- A later stage on which no binding, no subscription, no registered name and no waiting run is
different, and nothing was asked of an engine that gives out handles. -/
structure Unmoved (before after : Stage) : Prop where
  settings : after.settings = before.settings
  data : after.data = before.data
  source : after.source = before.source
  registry : after.registry = before.registry
  bindings : after.bindings = before.bindings
  subscribers : after.subscribers = before.subscribers
  listeners : after.listeners = before.listeners
  pending : after.pending = before.pending
  bindingCount : after.bindingCount = before.bindingCount
  subscriptionCount : after.subscriptionCount = before.subscriptionCount
  handleCount : after.handleCount = before.handleCount

/-- A turn that has failed and has left nothing behind but what it reports. -/
structure Turn.LeavesNoTrace (turn : Turn) (error : ResolveError) : Prop where
  plays : turn.plays = 0
  unmoved : Unmoved turn.before turn.after
  loads : turn.before.loader.Precedes turn.after.loader
  diagnostics : turn.after.diagnostics =
    turn.before.diagnostics ++ [failure turn.binding.animation.label error]
  history : turn.after.history =
    .reported (failure turn.binding.animation.label error) ::
      .failed turn.run turn.binding.id error :: (turn.opening ++ turn.before.history)

/-- A turn that fails leaves no trace. -/
theorem Turn.leavesNoTrace {turn : Turn} {error : ResolveError}
    (fails : turn.outcome = .error error) : turn.LeavesNoTrace error := by
  have result : turn.result = (turn.resolved.fail turn.run turn.binding.id
      turn.binding.animation.label error, 0) := by
    rw [Turn.result, fails]
    rfl
  have after := congrArg Prod.fst result
  refine ⟨congrArg Prod.snd result, ?_, ?_, ?_, ?_⟩
  · rw [Turn.after, after]
    cases turn <;> exact ⟨rfl, rfl, rfl, rfl, rfl, rfl, rfl, rfl, rfl, rfl, rfl⟩
  · rw [Turn.after, after]
    cases turn with
    | first stage binding reason => exact (resolve_grows stage binding).precedes
    | again stage binding waiting queue =>
      exact PendingOptions.poll_precedes stage.loader waiting.options
  · rw [Turn.after, after]
    cases turn <;> rfl
  · rw [Turn.after, after, ← turn.history_resolved]
    rfl

/-! ## Failed runs -/

/-- A stage on which a run was played only if it was dispatched. -/
def PlaysDispatched (stage : Stage) : Prop :=
  ∀ run id name handle element options,
    .animated (.run run id name) handle element options ∈ stage.history →
      (run, id) ∈ dispatchedAll stage.history

/-- New plays have to be of runs that were dispatched. -/
theorem PlaysDispatched.append {stage after : Stage} (holds : PlaysDispatched stage)
    (events : List Event)
    (new : ∀ run id name handle element options,
      .animated (.run run id name) handle element options ∈ events →
        (run, id) ∈ dispatchedAll after.history)
    (added : after.history = events ++ stage.history) : PlaysDispatched after := by
  intro run id name handle element options here
  rw [added] at here
  rcases List.mem_append.mp here with here | here
  · exact new _ _ _ _ _ _ here
  · rw [added, dispatchedAll, gather_append]
    exact List.mem_append_left _ (holds _ _ _ _ _ _ here)

theorem PlaysDispatched.of_adds {stage after : Stage} (holds : PlaysDispatched stage)
    (adds : Adds Event.isOutside stage after) : PlaysDispatched after := by
  obtain ⟨events, outside, added⟩ := adds
  refine holds.append events ?_ added
  intro run id name handle element options here
  cases outside _ here

/-- A dispatch plays for the run it records. -/
theorem dispatch_playsDispatched {stage : Stage} (holds : PlaysDispatched stage)
    {binding : Binding} (found : stage.binding? binding.id = some binding) (run : RunId)
    (reason : RunReason) (resolved : Fields Value) :
    PlaysDispatched (stage.dispatch run binding.id reason resolved).1 := by
  have dispatches := dispatch_dispatches found run reason resolved
  obtain ⟨late, early, kinds, notices, added⟩ := dispatches.history
  refine holds.append (late ++ _ :: early) ?_
    (added.trans (by rw [List.append_assoc, List.cons_append]))
  intro number id name handle element options here
  rcases List.mem_append.mp here with here | here
  · rcases kinds _ here with notice | play
    · cases notice
    · simp only [Event.isPlayOf, Bool.and_eq_true, decide_eq_true_eq] at play
      rw [play.1, play.2.1, dispatchedAll,
        dispatches.gather_eq fun _ => Event.dispatched?_of_isNoStep]
      exact List.mem_append_right _ (List.mem_singleton.mpr rfl)
  · rcases List.mem_cons.mp here with same | here
    · cases same
    · cases notices _ here

theorem advance_playsDispatched {stage : Stage} (holds : PlaysDispatched stage)
    {binding : Binding} (found : stage.binding? binding.id = some binding) (run : RunId)
    (reason : RunReason) (outcome : Except ResolveError Resolution) :
    PlaysDispatched (stage.advance run binding reason outcome).1 := by
  cases outcome with
  | error error => exact holds.append [_, _] (by simp) rfl
  | ok resolution =>
    cases resolution with
    | ready resolved => exact dispatch_playsDispatched holds found run reason resolved
    | pending options => exact holds

theorem Turn.Found.playsDispatched {turn : Turn} (found : turn.Found)
    (holds : PlaysDispatched turn.before) : PlaysDispatched turn.after := by
  have opened : PlaysDispatched turn.resolved := by
    refine holds.append turn.opening ?_ turn.history_resolved
    cases turn <;> simp [Turn.opening]
  exact advance_playsDispatched opened found.resolved turn.run turn.reason turn.outcome

/-- A run that has failed has come to nothing else: it was not dispatched and does not wait. -/
theorem Ledger.failed_only {stage : Stage} {unsettled : List (RunId × BindingId)}
    (ledger : Ledger stage unsettled) {entry : RunId × BindingId}
    (failed : entry ∈ failedAll stage.history) :
    entry ∉ dispatchedAll stage.history ∧ entry ∉ unsettled := by
  have distinct : (scheduledAll stage.history).Nodup := by
    refine List.Nodup.of_map Prod.fst ?_
    rw [ledger.numbers]
    exact List.nodup_range'
  have once := List.nodup_iff_count_le_one.mp distinct entry
  have balanced := ledger.balanced entry
  have lost := List.count_pos_iff.mpr failed
  refine ⟨?_, ?_⟩ <;> rw [← List.count_eq_zero] <;> omega

/-- **A run that fails leaves no trace but its diagnostic.**  After any operations on a new stage:

* each turn that has failed, at once or at a tick, has changed nothing but the loads it asked
  for or saw, asked nothing of the engine, and reported one error under the label of its
  animation;
* the failures on record are those of the turns, one for each, in order;
* a run that has failed was never dispatched, does not wait, and was never played;
* at the next tick every waiting run has its turn, whichever of the others fail, and those wait
  on that their own turn leaves waiting. -/
theorem failed_runs_leave_no_trace (settings : Settings) (data : Store) (source : HelperSupply)
    (operations : List Operation) :
    let turns := (new settings data source).turnsAll operations
    let stage := (new settings data source).performAll operations
    (∀ turn ∈ turns, ∀ error, turn.outcome = .error error → turn.LeavesNoTrace error) ∧
    gather Event.failed? stage.history = turns.filterMap Turn.failure? ∧
    (∀ entry ∈ failedAll stage.history,
      entry ∉ dispatchedAll stage.history ∧ entry ∉ entries stage.pending ∧
      ∀ name handle element options,
        .animated (.run entry.1 entry.2 name) handle element options ∉ stage.history) ∧
    (stage.turns .tick).map Turn.waiting? = stage.pending.map some ∧
    stage.tick.1.pending = (stage.turns .tick).filterMap Turn.remainder? := by
  intro turns stage
  have begun := new_sound settings data source
  have passage : Passage turns (new settings data source) stage := performAll_passage _ operations
  have ledger : Ledger stage (entries stage.pending) :=
    performAll_ledger begun (new_ledger settings data source) operations
  have played : PlaysDispatched stage :=
    passage.invariant PlaysDispatched (fun _ _ adds holds => holds.of_adds adds)
      (fun _ found => found.playsDispatched) nofun
  refine ⟨fun turn _ error => Turn.leavesNoTrace, passage.gather_failed?, ?_,
    map_waiting?_turns (performAll_sound begun operations), pending_tick stage⟩
  intro entry failed
  obtain ⟨undispatched, settled⟩ := ledger.failed_only failed
  refine ⟨undispatched, settled, fun name handle element options here => undispatched ?_⟩
  exact played entry.1 entry.2 name handle element options here

namespace TwoFailures

/-- A source that delivers one helper with the first poll, says of another then that nothing
comes, and knows no more. -/
def helpers : HelperSource := fun name =>
  if name = "near" then .later (some (1, some Helper.echo))
  else if name = "lost" then .later (some (1, none))
  else .missing

/-- The second run fails in the tick that dispatches the first and the third, and the fourth fails
as soon as it is scheduled, after it has asked for a helper. -/
def operations : List Operation :=
  [.apply ⟨1⟩ ⟨none, [], "{x: near()}"⟩ [], .apply ⟨2⟩ ⟨none, [], "{x: lost()}"⟩ [],
    .apply ⟨3⟩ ⟨none, [], "{x: near()}"⟩ [], .apply ⟨4⟩ ⟨none, [], "{x: near(), y: far()}"⟩ [],
    .tick]

end TwoFailures

open TwoFailures in
/-- Two runs fail, one at once and one in the middle of a tick, and the others are dispatched. -/
theorem failed_runs_leave_no_trace_among_others :
    let turns := (new .standard [] helpers).turnsAll operations
    let history := ((new .standard [] helpers).performAll operations).history
    (∃ turn ∈ turns, turn.run = 4 ∧ turn.LeavesNoTrace (.unknownHelper "far")) ∧
      (∃ turn ∈ turns, turn.run = 2 ∧ turn.LeavesNoTrace (.helperUnavailable "lost")) ∧
      turns.filterMap Turn.failure? =
        [(4, ⟨4⟩, .unknownHelper "far"), (2, ⟨2⟩, .helperUnavailable "lost")] ∧
      gather Event.failed? history = turns.filterMap Turn.failure? ∧
      dispatchedAll history = [(1, ⟨1⟩), (3, ⟨3⟩)] := by
  intro turns history
  have failures : turns.filterMap Turn.failure? =
      [(4, ⟨4⟩, .unknownHelper "far"), (2, ⟨2⟩, .helperUnavailable "lost")] := by
    decide +kernel
  have dispatched : dispatchedAll history = [(1, ⟨1⟩), (3, ⟨3⟩)] := by decide +kernel
  obtain ⟨traceless, recorded, -⟩ := failed_runs_leave_no_trace .standard [] helpers operations
  have among (run : RunId) (id : BindingId) (error : ResolveError)
      (listed : (run, id, error) ∈ turns.filterMap Turn.failure?) :
      ∃ turn ∈ turns, turn.run = run ∧ turn.LeavesNoTrace error := by
    obtain ⟨turn, here, fails⟩ := List.mem_filterMap.mp listed
    obtain ⟨own, outcome⟩ := Turn.outcome_of_failure? fails
    exact ⟨turn, here, own, traceless turn here error outcome⟩
  exact ⟨among 4 ⟨4⟩ _ (failures ▸ List.mem_cons_self), among 2 ⟨2⟩ _ (by rw [failures]; simp),
    failures, recorded, dispatched⟩

open TwoFailures in
/-- A source that comes to know its helpers between the two runs of one directive fails the first
of them only. -/
example :
    let late : HelperSupply := ⟨fun run => if run = 1 then fun _ => .missing else helpers⟩
    let history := ((new .standard [] late).performAll
      [.apply ⟨1⟩ ⟨none, [], "a: {x: near()}, b: {x: near()}"⟩ [], .tick]).history
    gather Event.failed? history = [(1, ⟨1⟩, .unknownHelper "near")] ∧
      dispatchedAll history = [(2, ⟨2⟩)] := by
  decide +kernel

end Stage

end Choreography
