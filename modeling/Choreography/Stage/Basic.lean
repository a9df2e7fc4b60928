import Choreography.Animation
import Choreography.Registry
import Choreography.Resolution
import Choreography.Settings

/-!
# The stage

Everything that lasts between one event and the next: the data that directives
read, the animations bound to elements, the subscriptions to their data, the
runs that wait for helpers, the registry, and a history of all that was asked of
the engine and of the host.  The engine is known only by the handles that it
gives out, one after the other.
-/

namespace Choreography

/-- Why an animation is run. -/
inductive RunReason where
  /-- Its directive was applied. -/
  | initial
  /-- Data that it reads has changed. -/
  | sourceChanged
  /-- Its element has entered the view. -/
  | enteredView
deriving DecidableEq, Repr

/-- Where an animation stands with respect to the view. -/
inductive ViewState where
  /-- It does not care about the view. -/
  | notObserved
  /-- It waits for its element to enter the view. -/
  | waiting
  /-- Its element has entered the view. -/
  | entered
deriving DecidableEq, Repr

/-- An animation bound to its element. -/
structure Binding where
  id : BindingId
  /-- The label of the directive, by which a later one replaces it. -/
  label : String
  animation : Animation
  /-- The frames that its references are looked up in. -/
  chain : Chain
  subscriptions : List SubscriptionId
  view : ViewState
  /-- The options that were last resolved, less those about scrolling. -/
  options : Option (Fields Value)
  /-- The last time it was played. -/
  lastRun : Option Handle
deriving Repr

/-- The element that a binding belongs to. -/
def Binding.element (binding : Binding) : ElementId := binding.animation.element

/-- A number for each run that was ever scheduled, from one upward. -/
abbrev RunId := Nat

/-- A source of helpers over time: what it does not know when one run is scheduled,
it may know when the next one is. -/
structure HelperSupply where
  /-- The source at the moment when a run is scheduled. -/
  asOf : RunId → HelperSource

/-- A source that answers every run alike. -/
def HelperSource.lasting (source : HelperSource) : HelperSupply := ⟨fun _ => source⟩

instance : Coe HelperSource HelperSupply := ⟨HelperSource.lasting⟩

/-- A run that waits for helpers. -/
structure PendingRun where
  run : RunId
  binding : BindingId
  reason : RunReason
  options : PendingOptions
deriving Repr

/-- On whose behalf an engine plays an animation. -/
inductive Cause where
  /-- A run of a binding, whose animation may have a name. -/
  | run (run : RunId) (binding : BindingId) (name : Option String)
  | replay (name : String)
  | direct
deriving DecidableEq, Repr

/-- The name whose animation is played. -/
def Cause.name? : Cause → Option String
  | .run _ _ name => name
  | .replay name => some name
  | .direct => none

/-- One thing that happened on a stage.  Some events are requests to the engine
and the host, some are written to a log, and the others follow each binding and
each run from its beginning to its end. -/
inductive Event where
  | animated (cause : Cause) (handle : Handle) (element : ElementId)
      (options : Fields Value)
  | sequenced (handle : Handle) (steps : List TimelineStep) (options : Fields Value)
  | linkedScroll (binding : BindingId) (handle : Handle) (link : ScrollLink)
  | followedScroll (link : ScrollLink)
  | observed (binding : BindingId) (element : ElementId)
  | unobserved (binding : BindingId) (element : ElementId)
  | subscribed (binding : BindingId) (root : String) (subscription : SubscriptionId)
  | unsubscribed (binding : BindingId) (subscription : SubscriptionId)
  | reported (diagnostic : Diagnostic)
  | noticed (notice : Notice)
  | bound (binding : BindingId) (label : String) (animation : Animation)
  | released (binding : BindingId)
  | tornDown (element : ElementId)
  | scheduled (run : RunId) (binding : BindingId) (reason : RunReason)
  /-- The options of a run were resolved, and are now those of its animation. -/
  | dispatched (run : RunId) (binding : BindingId) (name : Option String)
      (element : ElementId) (resolved : Fields Value)
  | failed (run : RunId) (binding : BindingId) (error : ResolveError)
  | dropped (run : RunId) (binding : BindingId)
deriving Repr

/-- What an event writes to the log. -/
def Event.logLine? : Event → Option (Level × String)
  | .reported diagnostic => some (diagnostic.level, diagnostic.message)
  | .noticed notice => some (notice.level, notice.message)
  | _ => none

/-- The state of a stage. -/
structure Stage where
  settings : Settings
  /-- The frames of data, which the host writes. -/
  data : Store
  /-- What the source of helpers answers to the runs to come. -/
  source : HelperSupply
  loader : Loader
  registry : Registry
  /-- The bindings that are in force, the oldest first. -/
  bindings : List Binding
  /-- The binding of each subscription that is in force. -/
  subscribers : List (SubscriptionId × BindingId)
  /-- The host's record: the root name of each subscription it holds. -/
  listeners : List (SubscriptionId × String)
  /-- The runs that wait for helpers, in the order of their schedule. -/
  pending : List PendingRun
  /-- The diagnostics that have not been taken, the oldest first. -/
  diagnostics : List Diagnostic
  bindingCount : Nat
  subscriptionCount : Nat
  handleCount : Nat
  runCount : Nat
  /-- All that happened, the latest first. -/
  history : List Event

namespace Stage

/-- A stage on which nothing has happened. -/
def new (settings : Settings) (data : Store) (source : HelperSupply) : Stage :=
  ⟨settings, data, source, Loader.empty, [], [], [], [], [], [], 0, 0, 0, 0, []⟩

/-- The stage with one more event in its history. -/
def record (stage : Stage) (event : Event) : Stage :=
  { stage with history := event :: stage.history }

/-- The stage with a diagnostic written to the log. -/
def log (stage : Stage) (diagnostic : Diagnostic) : Stage :=
  stage.record (.reported diagnostic)

/-- The stage with more diagnostics to be taken. -/
def keep (stage : Stage) (diagnostics : List Diagnostic) : Stage :=
  { stage with diagnostics := stage.diagnostics ++ diagnostics }

/-- The stage with one more diagnostic, which is logged and kept. -/
def report (stage : Stage) (diagnostic : Diagnostic) : Stage :=
  (stage.log diagnostic).keep [diagnostic]

/-- The stage with more diagnostics, each of which is logged and kept in turn. -/
def reportAll (stage : Stage) (diagnostics : List Diagnostic) : Stage :=
  diagnostics.foldl report stage

/-- The stage with remarks for the log. -/
def note (stage : Stage) (notices : List Notice) : Stage :=
  notices.foldl (fun stage notice => stage.record (.noticed notice)) stage

/-- The binding with an id, if it is in force. -/
def binding? (stage : Stage) (id : BindingId) : Option Binding :=
  stage.bindings.find? fun binding => binding.id = id

/-- The stage with the binding of an id changed. -/
def update (stage : Stage) (id : BindingId) (change : Binding → Binding) : Stage :=
  { stage with
    bindings := stage.bindings.map fun binding =>
      if binding.id = id then change binding else binding }

/-- The binding that a subscription belongs to. -/
def subscriber? (stage : Stage) (subscription : SubscriptionId) : Option BindingId :=
  stage.subscribers.lookup subscription

/-- The element that a subscription belongs to. -/
def subscriptionElement? (stage : Stage) (subscription : SubscriptionId) :
    Option ElementId := do
  let id ← stage.subscriber? subscription
  let binding ← stage.binding? id
  some binding.element

/-- The subscriptions that the host holds for a root name, the oldest first. -/
def listenersOf (stage : Stage) (root : String) : List SubscriptionId :=
  (stage.listeners.filter fun listener => listener.2 = root).map Prod.fst

/-- The stage with a field of a frame written; nobody is notified. -/
def write (stage : Stage) (frame : FrameId) (name : String) (value : Value) : Stage :=
  { stage with data := stage.data.set frame name value }

/-- The stage with a field of a frame removed; nobody is notified. -/
def erase (stage : Stage) (frame : FrameId) (name : String) : Stage :=
  { stage with data := stage.data.remove frame name }

/-- The stage with another source of helpers. -/
def offer (stage : Stage) (source : HelperSupply) : Stage :=
  { stage with source := source }

/-- The stage after a delivery for a helper that is awaited. -/
def deliver? (stage : Stage) (name : String) (delivery : Option Helper) :
    Option Stage :=
  (stage.loader.deliver? name delivery).map fun loader =>
    { stage with loader := loader }

/-- The stage with its diagnostics taken away. -/
def clearDiagnostics (stage : Stage) : Stage := { stage with diagnostics := [] }

/-- The events since an earlier moment with the given number of events, the
oldest first. -/
def eventsSince (stage : Stage) (count : Nat) : List Event :=
  (stage.history.take (stage.history.length - count)).reverse

end Stage

end Choreography
