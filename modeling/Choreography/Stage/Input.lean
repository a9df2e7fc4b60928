import Choreography.Stage.Run

/-!
# What happens to a stage

Directives are applied, data changes, elements enter the view and are torn down,
and animations are asked for by name.  Applying a directive releases the bindings
that an earlier application of it left on the element.  Tearing an element down
releases all its bindings and the names that it owns.
-/

namespace Choreography

/-- An event that the host reports. -/
inductive Input where
  | sourceChanged (subscription : SubscriptionId)
  | enteredView (element : ElementId)
  | teardown (element : ElementId)
deriving DecidableEq, Repr

/-- The element that an event is about, if it is about one. -/
def Input.element? : Input → Option ElementId
  | .sourceChanged _ => none
  | .enteredView element => some element
  | .teardown element => some element

namespace Stage

/-! ## Releasing bindings -/

/-- The host's subscription ends. -/
def unsubscribe (id : BindingId) (stage : Stage) (subscription : SubscriptionId) :
    Stage :=
  { stage with
    subscribers := stage.subscribers.filter fun entry => entry.1 ≠ subscription
    listeners := stage.listeners.filter fun entry => entry.1 ≠ subscription
    history := .unsubscribed id subscription :: stage.history }

/-- Whether a binding has its element observed. -/
def isObserving (settings : Settings) (view : ViewState) : Bool :=
  view = .waiting || (view = .entered && !settings.inViewOnce)

/-- A binding is taken off the stage with its subscriptions and its observation
of the view. -/
def releaseOne (stage : Stage) (binding : Binding) : Stage :=
  let stage := { stage with
    bindings := stage.bindings.filter fun other => other.id ≠ binding.id
    history := .released binding.id :: stage.history }
  let stage := binding.subscriptions.foldl (unsubscribe binding.id) stage
  if isObserving stage.settings binding.view then
    stage.record (.unobserved binding.id binding.element)
  else stage

/-- The waiting runs of released bindings are dropped. -/
def dropRuns (stage : Stage) (ids : List BindingId) : Stage :=
  let dropped := stage.pending.filter fun run => ids.contains run.binding
  let stage := { stage with
    pending := stage.pending.filter fun run => !ids.contains run.binding }
  dropped.foldl (fun stage run => stage.record (.dropped run.run run.binding)) stage

/-- Every binding with a property is released, the oldest first. -/
def release (stage : Stage) (chosen : Binding → Bool) : Stage :=
  let released := stage.bindings.filter chosen
  (released.foldl releaseOne stage).dropRuns (released.map Binding.id)

/-! ## Binding animations -/

/-- The references that an animation reads: those in its options, then those in
the arguments of its calls, each once. -/
def sources (scope : Scope) (animation : Animation) : List Reference :=
  (animation.references ++
    animation.calls.flatMap fun call => Arguments.references scope call.arguments).eraseDups

/-- The root names that an animation reads, each once. -/
def roots (scope : Scope) (animation : Animation) : List String :=
  ((sources scope animation).map Reference.root).eraseDups

/-- The host is asked to watch a root name for a binding. -/
def subscribe (id : BindingId) (state : Stage × List SubscriptionId) (root : String) :
    Stage × List SubscriptionId :=
  let stage := state.1
  let subscription : SubscriptionId := ⟨stage.subscriptionCount + 1⟩
  ({ stage with
      subscriptionCount := stage.subscriptionCount + 1
      subscribers := stage.subscribers ++ [(subscription, id)]
      listeners := stage.listeners ++ [(subscription, root)]
      history := .subscribed id root subscription :: stage.history },
    state.2 ++ [subscription])

/-- An animation is bound to its element: the host watches the root names it
reads, and the engine the view if it waits for that. -/
def bind (stage : Stage) (label : String) (animation : Animation) (chain : Chain) :
    Stage × BindingId :=
  let id : BindingId := ⟨stage.bindingCount + 1⟩
  let stage := { stage with
    bindingCount := stage.bindingCount + 1
    history := .bound id label animation :: stage.history }
  let (stage, subscriptions) :=
    (roots (stage.data.scope chain) animation).foldl (subscribe id) (stage, [])
  let (stage, view) :=
    if animation.triggers.visible then
      (stage.record (.observed id animation.element), ViewState.waiting)
    else (stage, ViewState.notObserved)
  let binding : Binding :=
    ⟨id, label, animation, chain, subscriptions, view, none, none⟩
  ({ stage with bindings := stage.bindings ++ [binding] }, id)

/-- The diagnostics of a compilation, each of which was logged when it was found, are
kept once it is over. -/
def absorb (stage : Stage) (diagnostics : List Diagnostic) : Stage :=
  (diagnostics.foldl log stage).keep diagnostics

/-- One animation of a directive is bound and run, with the bindings so far. -/
def install (label : String) (chain : Chain) (state : Stage × List BindingId)
    (animation : Animation) : Stage × List BindingId :=
  let (stage, id) := state.1.bind label animation chain
  ((stage.schedule id .initial).1, state.2 ++ [id])

/-- A directive is applied to an element; the answer names its bindings. -/
def apply (stage : Stage) (element : ElementId) (directive : Directive)
    (chain : Chain) : Stage × List BindingId :=
  let label := directive.label stage.settings.directiveStart
  let stage := stage.release fun binding =>
    binding.element = element && binding.label = label
  let compiled := directive.compile (stage.data.scope chain) element label
  compiled.result.foldl (install label chain) (stage.absorb compiled.diagnostics, [])

/-! ## Events of the host -/

/-- Whether an entry into view concerns a binding. -/
def respondsToView (settings : Settings) (view : ViewState) : Bool :=
  match view with
  | .waiting => true
  | .entered => !settings.inViewOnce
  | .notObserved => false

/-- The element of a binding enters the view. -/
def enter (stage : Stage) (binding : Binding) : Stage :=
  let stage := stage.update binding.id fun binding => { binding with view := .entered }
  let stage :=
    if stage.settings.inViewOnce then
      stage.record (.unobserved binding.id binding.element)
    else stage
  (stage.schedule binding.id .enteredView).1

/-- An event that the host reports is handled. -/
def handle (stage : Stage) (input : Input) : Stage :=
  match input with
  | .sourceChanged subscription =>
    match stage.subscriber? subscription with
    | some id => (stage.schedule id .sourceChanged).1
    | none => stage
  | .enteredView element =>
    (stage.bindings.filter fun binding =>
      binding.element = element && respondsToView stage.settings binding.view).foldl
        enter stage
  | .teardown element =>
    let stage := stage.release fun binding => binding.element = element
    { stage with registry := stage.registry.release element }.record (.tornDown element)

/-! ## Animations by name -/

/-- The animation of a name is played again; the answer is its handle. -/
def lookup (stage : Stage) (name : String) : Stage × Option Handle :=
  match Fields.get? stage.registry name with
  | none =>
    (stage.report ⟨.warning, "lookup", s!"未找到动画 '{name}'", none⟩, none)
  | some record =>
    let (stage, handle) := stage.animate (.replay name) record.element record.options
    ({ stage with registry := stage.registry.setLastRun name handle }, some handle)

/-- The warning for a name that a timeline has to do without. -/
def missingStep (name : String) : Diagnostic :=
  ⟨.warning, "sequence", s!"时间线跳过未注册的动画 '{name}'", none⟩

/-- The registered animations of a list of names are played as a timeline; the
answer is its handle.  Without any there is no timeline. -/
def sequence (stage : Stage) (names : List String) (options : Fields Value) :
    Stage × Option Handle :=
  let steps := TimelineStep.ofNames stage.registry names
  let stage := stage.reportAll ((TimelineStep.missing stage.registry names).map missingStep)
  if steps.isEmpty then
    (stage.report ⟨.warning, "sequence", "时间线没有可执行的步骤", none⟩, none)
  else
    let handle : Handle := ⟨stage.handleCount + 1⟩
    ({ stage with
        handleCount := stage.handleCount + 1
        history := .sequenced handle steps options :: stage.history }, some handle)

/-- The engine reports scroll progress. -/
def followScroll (stage : Stage) (link : ScrollLink) : Stage :=
  stage.record (.followedScroll link)

end Stage

end Choreography
