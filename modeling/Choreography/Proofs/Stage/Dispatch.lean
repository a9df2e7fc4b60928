import Choreography.Proofs.Stage.Operation

/-!
# What a dispatch changes

A dispatch writes the options of its own binding and the record of its own name,
and otherwise only speaks to the engine and the log.  `dispatch_dispatches` says
this once; `playsFor_dispatch` counts the plays.

* `Keeps` — everything is as it was but the bindings, the registry, the handles and
  the history;
* `Touches` — a change of bindings that reaches one binding only, and of that only
  the options and the last play;
* `Plays` — what any number of plays of one run does.
-/

namespace Choreography

namespace Event

/-- Whether an event is a remark for the log. -/
def isNotice : Event → Bool
  | .noticed _ => true
  | _ => false

/-- Whether an event is what a run of a binding of an element asks of an engine. -/
def isPlayOf (run : RunId) (id : BindingId) (element? : Option ElementId) : Event → Bool
  | .animated (.run other binding _) _ element _ =>
    other = run && (binding = id && element? = some element)
  | .linkedScroll binding _ _ => binding = id
  | _ => false

theorem isIdle_of_isNotice {event : Event} (notice : event.isNotice = true) :
    event.isIdle = true := by
  cases event <;> first | rfl | cases notice

theorem isAside_of_isPlayOf {run : RunId} {id : BindingId} {element? : Option ElementId}
    {event : Event} (play : event.isPlayOf run id element? = true) : event.isAside = true := by
  cases event <;> first | rfl | cases play

/-- What a run asks of an engine is no play for another binding. -/
theorem playsFor_of_isPlayOf {run : RunId} {id other : BindingId}
    {element? : Option ElementId} {event : Event}
    (play : event.isPlayOf run id element? = true) (different : id ≠ other) :
    event.playsFor other = false := by
  cases event with
  | animated cause =>
    cases cause with
    | run number binding name =>
      simp only [isPlayOf, Bool.and_eq_true, decide_eq_true_eq] at play
      simp [Event.playsFor, play.2.1, different]
    | replay => rfl
    | direct => rfl
  | _ => rfl

end Event

namespace Registry

/-- What a name is registered with: its element and its options. -/
def registered (registry : Registry) (name : String) : Option (ElementId × Fields Value) :=
  (Fields.get? registry name).map fun record => (record.element, record.options)

/-- A registration registers its own name and no other. -/
theorem registered_register (registry : Registry) (name other : String)
    (element : ElementId) (options : Fields Value) :
    (registry.register name element options).1.registered other =
      if name = other then some (element, options) else registry.registered other := by
  by_cases same : name = other
  · subst same
    rw [if_pos rfl, registered, get?_register]
    rfl
  · rw [if_neg same, registered, get?_register_of_ne registry same]
    rfl

/-- Noting a play changes nothing about what is registered. -/
theorem registered_setLastRun (registry : Registry) (name other : String)
    (handle : Handle) :
    (registry.setLastRun name handle).registered other = registry.registered other := by
  rw [registered, get?_setLastRun]
  by_cases same : name = other
  · rw [if_pos same, Option.map_map]
    rfl
  · rw [if_neg same]
    rfl

/-- The elements that names are registered to. -/
def owners (registry : Registry) : List ElementId :=
  registry.map fun entry => entry.2.element

/-- A registration makes no element an owner but its own. -/
theorem owners_register_subset (registry : Registry) (name : String) (element : ElementId)
    (options : Fields Value) :
    (registry.register name element options).1.owners ⊆ element :: registry.owners := by
  intro owner here
  obtain ⟨entry, among, rfl⟩ := List.mem_map.mp here
  unfold register at among
  split at among <;> rcases Fields.mem_put among with among | rfl
  · exact List.mem_cons_of_mem _ (List.mem_map_of_mem among)
  · exact List.mem_cons_self
  · exact List.mem_cons_of_mem _ (List.mem_map_of_mem among)
  · exact List.mem_cons_self

/-- Noting a play makes no element an owner. -/
theorem owners_setLastRun_subset (registry : Registry) (name : String) (handle : Handle) :
    (registry.setLastRun name handle).owners ⊆ registry.owners := by
  unfold setLastRun
  split
  · rename_i record found
    intro owner here
    obtain ⟨entry, among, rfl⟩ := List.mem_map.mp here
    rcases Fields.mem_put among with among | rfl
    · exact List.mem_map_of_mem among
    · exact List.mem_map.mpr ⟨_, Fields.mem_of_get? found, rfl⟩
  · exact List.Subset.refl _

end Registry

namespace Stage

/-! ## Frames -/

/-- A later stage on which nothing has changed but the bindings, the registry, the
handles and the history. -/
structure Keeps (before after : Stage) : Prop where
  settings : after.settings = before.settings
  data : after.data = before.data
  source : after.source = before.source
  loader : after.loader = before.loader
  subscribers : after.subscribers = before.subscribers
  listeners : after.listeners = before.listeners
  pending : after.pending = before.pending
  diagnostics : after.diagnostics = before.diagnostics
  bindingCount : after.bindingCount = before.bindingCount
  subscriptionCount : after.subscriptionCount = before.subscriptionCount
  runCount : after.runCount = before.runCount

theorem Keeps.refl (stage : Stage) : stage.Keeps stage :=
  ⟨rfl, rfl, rfl, rfl, rfl, rfl, rfl, rfl, rfl, rfl, rfl⟩

theorem Keeps.trans {first second third : Stage} (early : first.Keeps second)
    (late : second.Keeps third) : first.Keeps third where
  settings := late.settings.trans early.settings
  data := late.data.trans early.data
  source := late.source.trans early.source
  loader := late.loader.trans early.loader
  subscribers := late.subscribers.trans early.subscribers
  listeners := late.listeners.trans early.listeners
  pending := late.pending.trans early.pending
  diagnostics := late.diagnostics.trans early.diagnostics
  bindingCount := late.bindingCount.trans early.bindingCount
  subscriptionCount := late.subscriptionCount.trans early.subscriptionCount
  runCount := late.runCount.trans early.runCount

/-- A change of bindings that reaches the one with an id only, and of it nothing but
the options and the last play. -/
structure Touches (id : BindingId) (change : Binding → Binding) : Prop where
  others : ∀ binding, binding.id ≠ id → change binding = binding
  rest : ∀ binding, change binding =
    { binding with options := (change binding).options, lastRun := (change binding).lastRun }

namespace Touches

variable {id : BindingId} {change : Binding → Binding}

theorem refl (id : BindingId) : Touches id fun binding => binding :=
  ⟨fun _ _ => rfl, fun _ => rfl⟩

theorem id_eq (touches : Touches id change) (binding : Binding) :
    (change binding).id = binding.id := by rw [touches.rest]

theorem animation_eq (touches : Touches id change) (binding : Binding) :
    (change binding).animation = binding.animation := by rw [touches.rest]

theorem element_eq (touches : Touches id change) (binding : Binding) :
    (change binding).element = binding.element :=
  congrArg Animation.element (touches.animation_eq binding)

theorem view_eq (touches : Touches id change) (binding : Binding) :
    (change binding).view = binding.view := by rw [touches.rest]

theorem comp {next : Binding → Binding} (touches : Touches id change)
    (further : Touches id next) : Touches id fun binding => next (change binding) where
  others := by
    intro binding different
    rw [touches.others binding different, further.others binding different]
  rest := by
    intro binding
    rw [further.rest (change binding), touches.rest binding]

/-- Giving the binding with an id other options and another last play touches it
only. -/
theorem ite (id : BindingId) (options : Binding → Option (Fields Value))
    (lastRun : Binding → Option Handle) :
    Touches id fun binding =>
      if binding.id = id then
        { binding with options := options binding, lastRun := lastRun binding }
      else binding where
  others := fun binding different => if_neg different
  rest := by
    intro binding
    by_cases same : binding.id = id <;> simp [same]

end Touches

/-- The binding with an id is found among touched bindings where it was found
before. -/
theorem find?_touched {id : BindingId} {change : Binding → Binding}
    (touches : Touches id change) (bindings : List Binding) (other : BindingId) :
    (bindings.map change).find? (fun binding => binding.id = other) =
      (bindings.find? fun binding => binding.id = other).map change := by
  induction bindings with
  | nil => rfl
  | cons binding rest ih =>
    rw [List.map_cons, List.find?_cons, List.find?_cons, touches.id_eq, ih]
    by_cases same : binding.id = other <;> simp [same]

theorem mem_bindings_of_binding? {stage : Stage} {id : BindingId} {binding : Binding}
    (found : stage.binding? id = some binding) :
    binding ∈ stage.bindings ∧ binding.id = id :=
  ⟨List.mem_of_find?_eq_some found, by simpa using List.find?_some found⟩

/-- The element of the binding with an id, if that is in force. -/
def elementOf? (stage : Stage) (id : BindingId) : Option ElementId :=
  (stage.binding? id).map Binding.element

theorem elementOf?_touched {before after : Stage} {id : BindingId} {change : Binding → Binding}
    (touches : Touches id change) (changed : after.bindings = before.bindings.map change)
    (other : BindingId) : after.elementOf? other = before.elementOf? other := by
  rw [elementOf?, Stage.binding?, changed, find?_touched touches, Option.map_map]
  exact congrArg (Option.map · _) (funext touches.element_eq)

/-! ## Plays -/

/-- What any number of plays of a run of a binding does to a stage. -/
structure Plays (run : RunId) (id : BindingId) (before after : Stage) : Prop where
  keeps : before.Keeps after
  bindings : ∃ change, Touches id change ∧
    (∀ binding, (change binding).options = binding.options) ∧
    after.bindings = before.bindings.map change
  registered : ∀ name, after.registry.registered name = before.registry.registered name
  owners : after.registry.owners ⊆ before.registry.owners
  history : ∃ events,
    (∀ event ∈ events, event.isPlayOf run id (before.elementOf? id) = true) ∧
    after.history = events ++ before.history

theorem Plays.refl (run : RunId) (id : BindingId) (stage : Stage) : Plays run id stage stage where
  keeps := Keeps.refl stage
  bindings := ⟨fun binding => binding, Touches.refl id, fun _ => rfl, (List.map_id _).symm⟩
  registered := fun _ => rfl
  owners := List.Subset.refl _
  history := ⟨[], nofun, rfl⟩

theorem Plays.elementOf?_eq {run : RunId} {id : BindingId} {before after : Stage}
    (plays : Plays run id before after) : after.elementOf? id = before.elementOf? id := by
  obtain ⟨change, touches, -, changed⟩ := plays.bindings
  exact elementOf?_touched touches changed id

theorem Plays.trans {run : RunId} {id : BindingId} {first second third : Stage}
    (early : Plays run id first second) (late : Plays run id second third) :
    Plays run id first third where
  keeps := early.keeps.trans late.keeps
  bindings := by
    obtain ⟨change, touches, same, changed⟩ := early.bindings
    obtain ⟨next, further, still, moved⟩ := late.bindings
    refine ⟨fun binding => next (change binding), touches.comp further, ?_, ?_⟩
    · intro binding
      rw [still, same]
    · rw [moved, changed, List.map_map]
      rfl
  registered := fun name => (late.registered name).trans (early.registered name)
  owners := List.Subset.trans late.owners early.owners
  history := by
    obtain ⟨events, plays, added⟩ := early.history
    obtain ⟨more, further, appended⟩ := late.history
    rw [early.elementOf?_eq] at further
    refine ⟨more ++ events, ?_, ?_⟩
    · intro event here
      rcases List.mem_append.mp here with here | here
      · exact further event here
      · exact plays event here
    · rw [appended, added, List.append_assoc]

/-- One play of a run is a play. -/
theorem play_plays (stage : Stage) (run : RunId) (id : BindingId) (options : Fields Value) :
    Plays run id stage (stage.play run id options).1 := by
  unfold play
  split
  · exact Plays.refl run id stage
  · rename_i binding found
    have bindings : ∃ change, Touches id change ∧
        (∀ binding, (change binding).options = binding.options) ∧
        (stage.bindings.map fun binding =>
          if binding.id = id then
            { binding with lastRun := some (Handle.mk (stage.handleCount + 1)) }
          else binding) = stage.bindings.map change := by
      refine ⟨_, Touches.ite id Binding.options
        (fun _ => some ⟨stage.handleCount + 1⟩), ?_, rfl⟩
      intro binding
      by_cases same : binding.id = id <;> simp [same]
    have history : ∀ name, ∃ events,
        (∀ event ∈ events, event.isPlayOf run id (stage.elementOf? id) = true) ∧
        Event.animated (.run run id name) ⟨stage.handleCount + 1⟩
          binding.element options :: stage.history = events ++ stage.history :=
      fun name => ⟨[_], by simp [Event.isPlayOf, elementOf?, found], rfl⟩
    cases binding.animation.name with
    | none =>
      exact ⟨⟨rfl, rfl, rfl, rfl, rfl, rfl, rfl, rfl, rfl, rfl, rfl⟩, bindings,
        fun _ => rfl, List.Subset.refl _, history none⟩
    | some name =>
      exact ⟨⟨rfl, rfl, rfl, rfl, rfl, rfl, rfl, rfl, rfl, rfl, rfl⟩, bindings,
        fun other => Registry.registered_setLastRun _ name other _,
        Registry.owners_setLastRun_subset _ name _, history (some name)⟩

/-- A play that finds its binding is one request to the engine. -/
theorem history_play {stage : Stage} {id : BindingId} {binding : Binding}
    (found : stage.binding? id = some binding) (run : RunId) (options : Fields Value) :
    (stage.play run id options).1.history =
      .animated (.run run id binding.animation.name) ⟨stage.handleCount + 1⟩
        binding.element options :: stage.history := by
  unfold play
  rw [found]
  dsimp only
  split <;> rfl

theorem playsFor_play {stage : Stage} {id : BindingId} {binding : Binding}
    (found : stage.binding? id = some binding) (run : RunId) (options : Fields Value) :
    playsFor id (stage.play run id options).1.history = playsFor id stage.history + 1 := by
  rw [history_play found, playsFor, List.countP_cons_of_pos (by simp [Event.playsFor])]
  rfl

/-- A note of a linked scroll position counts with the plays of its run. -/
theorem record_linkedScroll_plays (stage : Stage) (run : RunId) (id : BindingId)
    (handle : Handle) (link : ScrollLink) :
    Plays run id stage (stage.record (.linkedScroll id handle link)) where
  keeps := ⟨rfl, rfl, rfl, rfl, rfl, rfl, rfl, rfl, rfl, rfl, rfl⟩
  bindings := (Plays.refl run id stage).bindings
  registered := fun _ => rfl
  owners := List.Subset.refl _
  history := ⟨[_], by simp [Event.isPlayOf], rfl⟩

/-- A binding is still found after plays. -/
theorem Plays.binding? {run : RunId} {id : BindingId} {before after : Stage}
    (plays : Plays run id before after) {binding : Binding}
    (found : before.binding? id = some binding) : ∃ played, after.binding? id = some played := by
  obtain ⟨change, touches, -, changed⟩ := plays.bindings
  refine ⟨change binding, ?_⟩
  rw [Stage.binding?, changed, find?_touched touches]
  exact congrArg (Option.map change) found

section

variable (run : RunId) {id : BindingId} (reason : RunReason) (view : ViewState)
  (options : Fields Value) (link : ScrollLink)

theorem applyTrigger_visible (state : Stage × Nat) :
    applyTrigger run id reason view options link state .visible =
      if visibleRuns reason view then ((state.1.play run id options).1, state.2 + 1)
      else state := rfl

theorem applyTrigger_scroll (state : Stage × Nat) :
    applyTrigger run id reason view options link state .scroll =
      if reason = .enteredView then state
      else
        ((state.1.play run id options).1.record
          (.linkedScroll id (state.1.play run id options).2 link), state.2 + 1) := rfl

theorem applyTrigger_plays (state : Stage × Nat) (trigger : Trigger) :
    Plays run id state.1 (applyTrigger run id reason view options link state trigger).1 := by
  cases trigger with
  | visible =>
    rw [applyTrigger_visible]
    split
    · exact play_plays state.1 run id options
    · exact Plays.refl run id state.1
  | scroll =>
    rw [applyTrigger_scroll]
    split
    · exact Plays.refl run id state.1
    · exact (play_plays state.1 run id options).trans
        (record_linkedScroll_plays _ run id _ link)

/-- The count of plays is the number of requests to the engine. -/
theorem playsFor_applyTrigger {state : Stage × Nat} {binding : Binding}
    (found : state.1.binding? id = some binding) (trigger : Trigger) :
    playsFor id (applyTrigger run id reason view options link state trigger).1.history +
        state.2 =
      playsFor id state.1.history +
        (applyTrigger run id reason view options link state trigger).2 := by
  have played := playsFor_play found run options
  cases trigger with
  | visible =>
    rw [applyTrigger_visible]
    split
    · show playsFor id (state.1.play run id options).1.history + state.2 = _ + (state.2 + 1)
      omega
    · rfl
  | scroll =>
    rw [applyTrigger_scroll]
    split
    · rfl
    · have noted : playsFor id ((state.1.play run id options).1.record
          (.linkedScroll id (state.1.play run id options).2 link)).history =
          playsFor id (state.1.play run id options).1.history :=
        List.countP_cons_of_neg (by simp [Event.playsFor])
      show playsFor id ((state.1.play run id options).1.record
          (.linkedScroll id (state.1.play run id options).2 link)).history + state.2 =
        _ + (state.2 + 1)
      omega

theorem foldl_applyTrigger_plays (triggers : List Trigger) (state : Stage × Nat) :
    Plays run id state.1
      (triggers.foldl (applyTrigger run id reason view options link) state).1 := by
  induction triggers generalizing state with
  | nil => exact Plays.refl run id state.1
  | cons trigger rest ih =>
    exact (applyTrigger_plays run reason view options link state trigger).trans (ih _)

theorem playsFor_foldl_applyTrigger (state : Stage × Nat) {binding : Binding}
    (found : state.1.binding? id = some binding) (triggers : List Trigger) :
    playsFor id (triggers.foldl (applyTrigger run id reason view options link) state).1.history +
        state.2 =
      playsFor id state.1.history +
        (triggers.foldl (applyTrigger run id reason view options link) state).2 := by
  induction triggers generalizing state binding with
  | nil => rfl
  | cons trigger rest ih =>
    have first := playsFor_applyTrigger run reason view options link found trigger
    obtain ⟨played, still⟩ :=
      (applyTrigger_plays run reason view options link state trigger).binding? found
    have others := ih _ still
    simp only [List.foldl_cons]
    omega

end

/-! ## Dispatches -/

/-- Events that are recorded one after the other are added to the history. -/
theorem foldl_record_eq {α : Type} (event : α → Event) (things : List α) (stage : Stage) :
    things.foldl (fun stage thing => stage.record (event thing)) stage =
      { stage with history := (things.map event).reverse ++ stage.history } := by
  induction things generalizing stage with
  | nil => rfl
  | cons thing rest ih =>
    rw [List.foldl_cons, ih]
    simp [record]

theorem note_eq (stage : Stage) (notices : List Notice) :
    stage.note notices =
      { stage with history := (notices.map Event.noticed).reverse ++ stage.history } :=
  foldl_record_eq Event.noticed notices stage

theorem isNotice_of_mem_noticed {notices : List Notice} {event : Event}
    (here : event ∈ (notices.map Event.noticed).reverse) : event.isNotice = true := by
  obtain ⟨notice, -, rfl⟩ := List.mem_map.mp (List.mem_reverse.mp here)
  rfl

/-- What the dispatch of a run with resolved options does to a stage. -/
structure Dispatches (run : RunId) (binding : Binding) (resolved : Fields Value)
    (before after : Stage) : Prop where
  keeps : before.Keeps after
  bindings : ∃ change, Touches binding.id change ∧
    (∀ other, other.id = binding.id →
      (change other).options = some (ScrollLink.otherFields resolved)) ∧
    after.bindings = before.bindings.map change
  registered : ∀ name, after.registry.registered name =
    if binding.animation.name = some name then
      some (binding.element, ScrollLink.otherFields resolved)
    else before.registry.registered name
  owners : after.registry.owners ⊆ binding.element :: before.registry.owners
  history : ∃ late early,
    (∀ event ∈ late, event.isNotice = true ∨
      event.isPlayOf run binding.id (some binding.element) = true) ∧
    (∀ event ∈ early, event.isNotice = true) ∧
    after.history = late ++ .dispatched run binding.id binding.animation.name
      binding.element resolved :: (early ++ before.history)

theorem Dispatches.trans_plays {run : RunId} {binding : Binding} {resolved : Fields Value}
    {before between after : Stage} (dispatches : Dispatches run binding resolved before between)
    (own : between.elementOf? binding.id = some binding.element)
    (plays : Plays run binding.id between after) :
    Dispatches run binding resolved before after where
  keeps := dispatches.keeps.trans plays.keeps
  bindings := by
    obtain ⟨change, touches, written, changed⟩ := dispatches.bindings
    obtain ⟨next, further, same, moved⟩ := plays.bindings
    refine ⟨fun other => next (change other), touches.comp further, ?_, ?_⟩
    · intro other own
      rw [same, written other own]
    · rw [moved, changed, List.map_map]
      rfl
  registered := fun name => (plays.registered name).trans (dispatches.registered name)
  owners := List.Subset.trans plays.owners dispatches.owners
  history := by
    obtain ⟨late, early, kinds, notices, added⟩ := dispatches.history
    obtain ⟨events, requests, appended⟩ := plays.history
    rw [own] at requests
    refine ⟨events ++ late, early, ?_, notices, ?_⟩
    · intro event here
      rcases List.mem_append.mp here with here | here
      · exact .inr (requests event here)
      · exact kinds event here
    · rw [appended, added, List.append_assoc]

/-- But for the dispatch itself, a dispatch only adds events that are no steps of runs. -/
theorem Dispatches.exists_asides {run : RunId} {binding : Binding} {resolved : Fields Value}
    {before after : Stage} (dispatches : Dispatches run binding resolved before after) :
    ∃ late early, (∀ event ∈ late, event.isAside = true) ∧
      (∀ event ∈ early, event.isAside = true) ∧
      after.history = late ++ .dispatched run binding.id binding.animation.name
        binding.element resolved :: (early ++ before.history) := by
  obtain ⟨late, early, kinds, notices, added⟩ := dispatches.history
  refine ⟨late, early, ?_, ?_, added⟩
  · intro event here
    rcases kinds event here with notice | play
    · exact Event.isAside_of_isIdle (Event.isIdle_of_isNotice notice)
    · exact Event.isAside_of_isPlayOf play
  · intro event here
    exact Event.isAside_of_isIdle (Event.isIdle_of_isNotice (notices event here))

/-- What a dispatch does before anything is played: the options are written and
registered. -/
def prepare (stage : Stage) (run : RunId) (binding : Binding) (resolved : Fields Value) :
    Stage × Option Registry.Registration :=
  let options := ScrollLink.otherFields resolved
  let stage := (stage.note (ScrollLink.notices resolved)).record
    (.dispatched run binding.id binding.animation.name binding.element resolved)
  let stage := stage.update binding.id fun binding => { binding with options := some options }
  match binding.animation.name with
  | some name =>
    let (stage, registration) := stage.register name binding.element options
    (stage, some registration)
  | none => (stage, none)

/-- While options are written and registered, only the dispatch itself and remarks for the
log are recorded. -/
theorem history_prepare (stage : Stage) (run : RunId) (binding : Binding)
    (resolved : Fields Value) : ∃ late early,
      (∀ event ∈ late, event.isNotice = true) ∧ (∀ event ∈ early, event.isNotice = true) ∧
      (stage.prepare run binding resolved).1.history =
        late ++ .dispatched run binding.id binding.animation.name binding.element resolved ::
          (early ++ stage.history) := by
  unfold prepare
  rw [note_eq]
  split
  · dsimp only [register]
    rw [note_eq]
    exact ⟨_, _, fun _ => isNotice_of_mem_noticed, fun _ => isNotice_of_mem_noticed, rfl⟩
  · exact ⟨[], _, nofun, fun _ => isNotice_of_mem_noticed, rfl⟩

/-- What is registered is registered under the name of the animation, if it has one. -/
theorem registry_prepare (stage : Stage) (run : RunId) (binding : Binding)
    (resolved : Fields Value) :
    (stage.prepare run binding resolved).1.registry =
      match binding.animation.name with
      | some name => (stage.registry.register name binding.element
          (ScrollLink.otherFields resolved)).1
      | none => stage.registry := by
  unfold prepare
  rw [note_eq]
  cases binding.animation.name with
  | none => rfl
  | some name =>
    dsimp only [register]
    rw [note_eq]
    rfl

theorem prepare_dispatches (stage : Stage) (run : RunId) (binding : Binding)
    (resolved : Fields Value) :
    Dispatches run binding resolved stage (stage.prepare run binding resolved).1 := by
  obtain ⟨late, early, noticed, notices, added⟩ := history_prepare stage run binding resolved
  have registry := registry_prepare stage run binding resolved
  -- the options are written whether or not the animation has a name to register
  have touches := Touches.ite binding.id
    (fun _ => some (ScrollLink.otherFields resolved)) Binding.lastRun
  have frame : stage.Keeps (stage.prepare run binding resolved).1 ∧
      (stage.prepare run binding resolved).1.bindings = stage.bindings.map fun other =>
        if other.id = binding.id then
          { other with options := some (ScrollLink.otherFields resolved) }
        else other := by
    unfold prepare
    rw [note_eq]
    split
    · dsimp only [register]
      rw [note_eq]
      exact ⟨⟨rfl, rfl, rfl, rfl, rfl, rfl, rfl, rfl, rfl, rfl, rfl⟩, rfl⟩
    · exact ⟨⟨rfl, rfl, rfl, rfl, rfl, rfl, rfl, rfl, rfl, rfl, rfl⟩, rfl⟩
  obtain ⟨keeps, changed⟩ := frame
  refine ⟨keeps, ⟨_, touches, fun other own => if_pos own ▸ rfl, changed⟩, ?_, ?_,
    late, early, fun event here => .inl (noticed event here), notices, added⟩
  · intro other
    rw [registry]
    cases binding.animation.name with
    | none => rw [if_neg nofun]
    | some name =>
      dsimp only
      rw [Registry.registered_register]
      by_cases same : name = other <;> simp [same]
  · rw [registry]
    cases binding.animation.name with
    | none => exact List.subset_cons_self _ _
    | some name => exact Registry.owners_register_subset _ _ _ _

/-- A dispatch writes and registers the options, and then plays. -/
theorem dispatch_eq {stage : Stage} {id : BindingId} {binding : Binding}
    (found : stage.binding? id = some binding) (run : RunId) (reason : RunReason)
    (resolved : Fields Value) :
    stage.dispatch run id reason resolved =
      let prepared := stage.prepare run binding resolved
      let options := ScrollLink.otherFields resolved
      let triggers := binding.animation.triggers
      if triggers.isEmpty then
        if prepared.2 = some .inserted ∧ reason = .initial then (prepared.1, 0)
        else ((prepared.1.play run id options).1, 1)
      else
        triggers.toList.foldl
          (applyTrigger run id reason binding.view options
            (ScrollLink.ofFields stage.settings.scrollAxis resolved))
          (prepared.1, 0) := by
  obtain ⟨-, rfl⟩ := mem_bindings_of_binding? found
  have still : (stage.note (ScrollLink.notices resolved)).binding? binding.id =
      some binding := by
    rw [note_eq]
    exact found
  unfold dispatch prepare
  dsimp only
  rewrite [still]
  rfl

/-- What holds once options are written and registered, and is kept by plays and by notes of
linked scroll positions, holds after a dispatch. -/
theorem dispatch_induction {motive : Stage → Prop} {stage : Stage} {id : BindingId}
    {binding : Binding} (found : stage.binding? id = some binding) (run : RunId)
    (reason : RunReason) (resolved : Fields Value)
    (prepared : motive (stage.prepare run binding resolved).1)
    (played : ∀ before, motive before →
      motive (before.play run id (ScrollLink.otherFields resolved)).1)
    (linked : ∀ before handle link, motive before →
      motive (before.record (.linkedScroll id handle link))) :
    motive (stage.dispatch run id reason resolved).1 := by
  rw [dispatch_eq found]
  dsimp only
  split
  · split
    · exact prepared
    · exact played _ prepared
  · refine List.foldlRecOn (motive := fun state : Stage × Nat => motive state.1)
      binding.animation.triggers.toList
      (applyTrigger run id reason binding.view (ScrollLink.otherFields resolved) _)
      prepared fun state holds trigger _ => ?_
    cases trigger with
    | visible =>
      rw [applyTrigger_visible]
      split
      · exact played _ holds
      · exact holds
    | scroll =>
      rw [applyTrigger_scroll]
      split
      · exact holds
      · exact linked _ _ _ (played _ holds)

/-- **What a dispatch changes.** -/
theorem dispatch_dispatches {stage : Stage} {id : BindingId} {binding : Binding}
    (found : stage.binding? id = some binding) (run : RunId) (reason : RunReason)
    (resolved : Fields Value) :
    Dispatches run binding resolved stage (stage.dispatch run id reason resolved).1 := by
  have prepared := prepare_dispatches stage run binding resolved
  rw [dispatch_eq found]
  obtain ⟨-, rfl⟩ := mem_bindings_of_binding? found
  have own : (stage.prepare run binding resolved).1.elementOf? binding.id =
      some binding.element := by
    obtain ⟨change, touches, -, changed⟩ := prepared.bindings
    rw [elementOf?_touched touches changed, elementOf?, found]
    rfl
  dsimp only
  split
  · split
    · exact prepared
    · exact prepared.trans_plays own (play_plays _ run binding.id _)
  · exact prepared.trans_plays own
      (foldl_applyTrigger_plays run reason binding.view _ _ _
        ((stage.prepare run binding resolved).1, 0))

/-- A dispatched binding is still found. -/
theorem Dispatches.binding? {run : RunId} {binding : Binding} {resolved : Fields Value}
    {before after : Stage} (dispatches : Dispatches run binding resolved before after)
    {id : BindingId} {other : Binding} (found : before.binding? id = some other) :
    ∃ touched, after.binding? id = some touched := by
  obtain ⟨change, touches, -, changed⟩ := dispatches.bindings
  refine ⟨change other, ?_⟩
  rw [Stage.binding?, changed, find?_touched touches]
  exact congrArg (Option.map change) found

/-- Nothing is played while options are written and registered. -/
theorem playsFor_prepare (stage : Stage) (run : RunId) (binding : Binding)
    (resolved : Fields Value) (id : BindingId) :
    playsFor id (stage.prepare run binding resolved).1.history = playsFor id stage.history := by
  obtain ⟨late, early, noticed, notices, added⟩ := history_prepare stage run binding resolved
  rw [added, playsFor_append id fun event here => Event.isIdle_of_isNotice (noticed event here),
    playsFor, List.countP_cons_of_neg (by simp [Event.playsFor])]
  exact playsFor_append id fun event here => Event.isIdle_of_isNotice (notices event here)

/-- The plays that a dispatch counts are the requests that it makes of the engine. -/
theorem playsFor_dispatch {stage : Stage} {id : BindingId} {binding : Binding}
    (found : stage.binding? id = some binding) (run : RunId) (reason : RunReason)
    (resolved : Fields Value) :
    playsFor id (stage.dispatch run id reason resolved).1.history =
      playsFor id stage.history + (stage.dispatch run id reason resolved).2 := by
  have dispatches := prepare_dispatches stage run binding resolved
  obtain ⟨touched, still⟩ := dispatches.binding? found
  have prepared := playsFor_prepare stage run binding resolved id
  rw [dispatch_eq found]
  dsimp only
  split
  · split
    · exact prepared
    · rw [playsFor_play still, prepared]
  · have counted := playsFor_foldl_applyTrigger run reason binding.view
      (ScrollLink.otherFields resolved)
      (ScrollLink.ofFields stage.settings.scrollAxis resolved)
      ((stage.prepare run binding resolved).1, 0) still binding.animation.triggers.toList
    rw [prepared] at counted
    exact counted

/-- An animation that only waits for the view is played if its run is about an entry
or comes after one. -/
theorem snd_dispatch_of_visible {stage : Stage} {id : BindingId} {binding : Binding}
    (found : stage.binding? id = some binding)
    (visible : binding.animation.triggers = ⟨true, false⟩) (run : RunId) (reason : RunReason)
    (resolved : Fields Value) :
    (stage.dispatch run id reason resolved).2 =
      if visibleRuns reason binding.view then 1 else 0 := by
  rw [dispatch_eq found, visible]
  show (applyTrigger run id reason binding.view (ScrollLink.otherFields resolved)
    (ScrollLink.ofFields stage.settings.scrollAxis resolved)
    ((stage.prepare run binding resolved).1, 0) .visible).2 = _
  rw [applyTrigger_visible]
  split <;> rfl

/-- A dispatch plays nothing for other bindings. -/
theorem Dispatches.playsFor_other {run : RunId} {binding : Binding}
    {resolved : Fields Value} {before after : Stage}
    (dispatches : Dispatches run binding resolved before after) {other : BindingId}
    (different : binding.id ≠ other) :
    playsFor other after.history = playsFor other before.history := by
  obtain ⟨late, early, kinds, notices, added⟩ := dispatches.history
  have silent : late.countP (Event.playsFor other) = 0 := by
    rw [List.countP_eq_zero]
    intro event here
    rcases kinds event here with notice | play
    · simp [Event.playsFor_of_isIdle (Event.isIdle_of_isNotice notice)]
    · simp [Event.playsFor_of_isPlayOf play different]
  rw [playsFor, added, List.countP_append, silent, Nat.zero_add,
    List.countP_cons_of_neg (by simp [Event.playsFor])]
  exact playsFor_append other fun event here => Event.isIdle_of_isNotice (notices event here)

end Stage

end Choreography
