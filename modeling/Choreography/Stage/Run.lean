import Choreography.Stage.Basic

/-!
# Runs

A run resolves the options of a binding from the beginning.  If every helper is
here it is dispatched at once; if one is on its way it waits and is polled at
every tick; if the options cannot be resolved it ends with an error.  Dispatching
a run stores the options, registers them under the animation's name, and plays
the animation if its triggers and its registration say so.
-/

namespace Choreography

namespace Stage

/-- The engine plays options on an element. -/
def animate (stage : Stage) (cause : Cause) (element : ElementId)
    (options : Fields Value) : Stage × Handle :=
  let handle : Handle := ⟨stage.handleCount + 1⟩
  ({ stage with
      handleCount := stage.handleCount + 1
      history := .animated cause handle element options :: stage.history }, handle)

/-- A binding is played by a run, and the play is noted in the binding and under
its name. -/
def play (stage : Stage) (run : RunId) (id : BindingId) (options : Fields Value) :
    Stage × Handle :=
  match stage.binding? id with
  | none => (stage, ⟨0⟩)
  | some binding =>
    let cause := Cause.run run id binding.animation.name
    let (stage, handle) := stage.animate cause binding.element options
    let stage := stage.update id fun binding => { binding with lastRun := some handle }
    match binding.animation.name with
    | some name =>
      ({ stage with registry := stage.registry.setLastRun name handle }, handle)
    | none => (stage, handle)

/-- Options are registered under the name of an animation, with a note if
another element had the name. -/
def register (stage : Stage) (name : String) (element : ElementId)
    (options : Fields Value) : Stage × Registry.Registration :=
  let (registry, registration) := stage.registry.register name element options
  ({ stage with registry := registry }.note
    (registration.notice? name element).toList, registration)

/-- Whether a run plays an animation that waits for the view. -/
def visibleRuns (reason : RunReason) (view : ViewState) : Bool :=
  match reason with
  | .enteredView => true
  | .initial | .sourceChanged => view = .entered

/-- One trigger is acted upon, with the number of plays so far. -/
def applyTrigger (run : RunId) (id : BindingId) (reason : RunReason) (view : ViewState)
    (options : Fields Value) (link : ScrollLink) (state : Stage × Nat)
    (trigger : Trigger) : Stage × Nat :=
  match trigger with
  | .visible =>
    if visibleRuns reason view then ((state.1.play run id options).1, state.2 + 1)
    else state
  | .scroll =>
    if reason = .enteredView then state
    else
      let (stage, handle) := state.1.play run id options
      (stage.record (.linkedScroll id handle link), state.2 + 1)

/-- A run with resolved options is dispatched; the answer counts the plays. -/
def dispatch (stage : Stage) (run : RunId) (id : BindingId) (reason : RunReason)
    (resolved : Fields Value) : Stage × Nat :=
  let options := ScrollLink.otherFields resolved
  let link := ScrollLink.ofFields stage.settings.scrollAxis resolved
  let stage := stage.note (ScrollLink.notices resolved)
  match stage.binding? id with
  | none => (stage, 0)
  | some binding =>
    let name := binding.animation.name
    let stage := stage.record (.dispatched run id name binding.element resolved)
    let stage := stage.update id fun binding => { binding with options := some options }
    let (stage, registration) :=
      match name with
      | some name =>
        let (stage, registration) := stage.register name binding.element options
        (stage, some registration)
      | none => (stage, none)
    let triggers := binding.animation.triggers
    if triggers.isEmpty then
      if registration = some .inserted ∧ reason = .initial then (stage, 0)
      else ((stage.play run id options).1, 1)
    else
      triggers.toList.foldl (applyTrigger run id reason binding.view options link)
        (stage, 0)

/-- The diagnostic of a run that failed. -/
def failure (label : String) (error : ResolveError) : Diagnostic :=
  ⟨.error, label, s!"动画不会执行: {error.message}", none⟩

/-- A run ends with an error. -/
def fail (stage : Stage) (run : RunId) (id : BindingId) (label : String)
    (error : ResolveError) : Stage :=
  (stage.record (.failed run id error)).report (failure label error)

/-- A run goes on from where its resolution stands. -/
def advance (stage : Stage) (run : RunId) (binding : Binding) (reason : RunReason)
    (outcome : Except ResolveError Resolution) : Stage × Nat :=
  match outcome with
  | .ok (.ready options) => stage.dispatch run binding.id reason options
  | .ok (.pending options) =>
    ({ stage with pending := stage.pending ++ [⟨run, binding.id, reason, options⟩] }, 0)
  | .error error => (stage.fail run binding.id binding.animation.label error, 0)

/-- The options of a binding are resolved for the run that is scheduled next, with
the helpers that the source has at that moment. -/
def resolve (stage : Stage) (binding : Binding) :
    Loader × Except ResolveError Resolution :=
  Template.resolve (stage.source.asOf (stage.runCount + 1))
    (stage.data.scope binding.chain) stage.loader binding.animation.options

/-- A run of a binding is scheduled; the answer counts the plays it led to. -/
def schedule (stage : Stage) (id : BindingId) (reason : RunReason) : Stage × Nat :=
  match stage.binding? id with
  | none => (stage, 0)
  | some binding =>
    let run := stage.runCount + 1
    let (loader, outcome) := stage.resolve binding
    let stage := { stage with runCount := run, loader := loader }.record
      (.scheduled run id reason)
    stage.advance run binding reason outcome

/-- A waiting run is polled once, with the number of plays so far. -/
def pollRun (state : Stage × Nat) (pending : PendingRun) : Stage × Nat :=
  let stage := state.1
  match stage.binding? pending.binding with
  | none => (stage.record (.dropped pending.run pending.binding), state.2)
  | some binding =>
    let (loader, outcome) := pending.options.poll stage.loader
    let (stage, plays) :=
      { stage with loader := loader }.advance pending.run binding pending.reason outcome
    (stage, state.2 + plays)

/-- Every waiting run is polled once, in the order of the schedule; the answer
counts the plays. -/
def tick (stage : Stage) : Stage × Nat :=
  stage.pending.foldl pollRun ({ stage with pending := [] }, 0)

/-- A number of ticks.  Without waiting runs a tick changes nothing. -/
def ticks : Nat → Stage → Stage
  | 0, stage => stage
  | count + 1, stage =>
    if stage.pending.isEmpty then stage else ticks count stage.tick.1

end Stage

end Choreography
