import Choreography.Proofs.Resolution.Places
import Choreography.Proofs.Stage.Dispatch

/-!
# What each operation changes

Every part of an operation changes a few things on a stage and leaves the others as they
are.  Each has a structure that says which:

* `Passes` — something that concerns no binding (`perform_passes`);
* `Releases` — bindings leave the stage (`release_releases`);
* `Binds` — a binding comes to the stage (`bind_binds`);
* `Looks` — the element of a binding enters the view (`lookAt_looks`).

A run that is scheduled (`schedule_cases`) or polled (`pollRun_cases`) goes on from where its
resolution stands.
-/

namespace Choreography

namespace Event

/-- Whether an event concerns no binding. -/
def isUnbound : Event → Bool
  | .animated (.replay _) .. => true
  | .animated .direct .. => true
  | .sequenced .. => true
  | .followedScroll .. => true
  | .reported .. => true
  | .noticed .. => true
  | _ => false

theorem isIdle_of_isUnbound {event : Event} (unbound : event.isUnbound = true) :
    event.isIdle = true := by
  cases event with
  | animated cause => cases cause <;> first | rfl | cases unbound
  | _ => first | rfl | cases unbound

/-- Whether an event is part of the end of a binding. -/
def isEnding : Event → Bool
  | .released .. => true
  | .unsubscribed .. => true
  | .unobserved .. => true
  | .dropped .. => true
  | _ => false

theorem isIdle_of_isEnding {event : Event} (ending : event.isEnding = true) :
    event.isIdle = true := by
  cases event <;> first | rfl | cases ending

/-- Whether an event is part of the beginning of a binding. -/
def isBeginning : Event → Bool
  | .bound .. => true
  | .subscribed .. => true
  | .observed .. => true
  | _ => false

theorem isIdle_of_isBeginning {event : Event} (beginning : event.isBeginning = true) :
    event.isIdle = true := by
  cases event <;> first | rfl | cases beginning

end Event

namespace Stage

/-- A later stage whose history has grown by events of one kind. -/
def Adds (kind : Event → Bool) (before after : Stage) : Prop :=
  ∃ events, (∀ event ∈ events, kind event = true) ∧ after.history = events ++ before.history

theorem Adds.refl (kind : Event → Bool) (stage : Stage) : Adds kind stage stage :=
  ⟨[], nofun, rfl⟩

theorem Adds.trans {kind : Event → Bool} {first second third : Stage}
    (early : Adds kind first second) (late : Adds kind second third) :
    Adds kind first third := by
  obtain ⟨events, kinds, added⟩ := early
  obtain ⟨more, others, appended⟩ := late
  refine ⟨more ++ events, ?_, by rw [appended, added, List.append_assoc]⟩
  intro event here
  rcases List.mem_append.mp here with here | here
  · exact others event here
  · exact kinds event here

/-- What has happened stays on record. -/
theorem Adds.subset {kind : Event → Bool} {before after : Stage} (adds : Adds kind before after) :
    before.history ⊆ after.history := by
  obtain ⟨events, -, added⟩ := adds
  rw [added]
  exact List.subset_append_right events before.history

/-- One event more. -/
theorem Adds.single {kind : Event → Bool} {before after : Stage} {event : Event}
    (fits : kind event = true) (added : after.history = event :: before.history) :
    Adds kind before after :=
  ⟨[event], fun _ here => List.mem_singleton.mp here ▸ fits, added⟩

/-- What has grown by events of one kind has grown by events of any wider one. -/
theorem Adds.mono {kind wider : Event → Bool} {before after : Stage}
    (adds : Adds kind before after) (widens : ∀ event, kind event = true → wider event = true) :
    Adds wider before after := by
  obtain ⟨events, kinds, added⟩ := adds
  exact ⟨events, fun event here => widens event (kinds event here), added⟩

/-! ## What concerns no binding -/

/-- A later stage on which nothing has happened that concerns a binding or a run.
Data and the source of helpers may be others, a load may have been delivered, and
diagnostics and handles do not count. -/
structure Passes (before after : Stage) : Prop where
  settings : after.settings = before.settings
  bindings : after.bindings = before.bindings
  subscribers : after.subscribers = before.subscribers
  listeners : after.listeners = before.listeners
  pending : after.pending = before.pending
  bindingCount : after.bindingCount = before.bindingCount
  subscriptionCount : after.subscriptionCount = before.subscriptionCount
  runCount : after.runCount = before.runCount
  precedes : before.loader.Precedes after.loader
  hasSettled : ∀ name, after.loader.hasSettled name = before.loader.hasSettled name
  registered : ∀ name, after.registry.registered name = before.registry.registered name
  adds : Adds Event.isUnbound before after

/-- What leaves bindings, runs, loads and names alone passes. -/
theorem Passes.of_same {before after : Stage} (settings : after.settings = before.settings)
    (bindings : after.bindings = before.bindings)
    (subscribers : after.subscribers = before.subscribers)
    (listeners : after.listeners = before.listeners) (pending : after.pending = before.pending)
    (bindingCount : after.bindingCount = before.bindingCount)
    (subscriptionCount : after.subscriptionCount = before.subscriptionCount)
    (runCount : after.runCount = before.runCount) (loader : after.loader = before.loader)
    (registry : after.registry = before.registry) (adds : Adds Event.isUnbound before after) :
    Passes before after :=
  ⟨settings, bindings, subscribers, listeners, pending, bindingCount, subscriptionCount,
    runCount, loader ▸ Loader.Precedes.refl _, fun name => by rw [loader],
    fun name => by rw [registry], adds⟩

theorem Passes.refl (stage : Stage) : Passes stage stage :=
  .of_same rfl rfl rfl rfl rfl rfl rfl rfl rfl rfl (.refl _ stage)

theorem Passes.trans {first second third : Stage} (early : Passes first second)
    (late : Passes second third) : Passes first third where
  settings := late.settings.trans early.settings
  bindings := late.bindings.trans early.bindings
  subscribers := late.subscribers.trans early.subscribers
  listeners := late.listeners.trans early.listeners
  pending := late.pending.trans early.pending
  bindingCount := late.bindingCount.trans early.bindingCount
  subscriptionCount := late.subscriptionCount.trans early.subscriptionCount
  runCount := late.runCount.trans early.runCount
  precedes := early.precedes.trans late.precedes
  hasSettled name := (late.hasSettled name).trans (early.hasSettled name)
  registered name := (late.registered name).trans (early.registered name)
  adds := early.adds.trans late.adds

theorem report_passes (stage : Stage) (diagnostic : Diagnostic) :
    Passes stage (stage.report diagnostic) :=
  .of_same rfl rfl rfl rfl rfl rfl rfl rfl rfl rfl
    ⟨[.reported diagnostic], by simp [Event.isUnbound], rfl⟩

theorem reportAll_passes (stage : Stage) (diagnostics : List Diagnostic) :
    Passes stage (stage.reportAll diagnostics) :=
  List.foldlRecOn (motive := Passes stage) diagnostics report (.refl stage)
    fun _ early diagnostic _ => early.trans (report_passes _ diagnostic)

theorem absorb_passes (stage : Stage) (diagnostics : List Diagnostic) :
    Passes stage (stage.absorb diagnostics) := by
  rw [absorb_eq_reportAll]
  exact reportAll_passes stage diagnostics

theorem animate_passes (stage : Stage) (cause : Cause)
    (unbound : ∀ handle element options,
      (Event.animated cause handle element options).isUnbound = true)
    (element : ElementId) (options : Fields Value) :
    Passes stage (stage.animate cause element options).1 :=
  .of_same rfl rfl rfl rfl rfl rfl rfl rfl rfl rfl ⟨[_], by simp [unbound], rfl⟩

theorem deliver?_passes {stage later : Stage} {name : String} {delivery : Option Helper}
    (delivered : stage.deliver? name delivery = some later) : Passes stage later := by
  obtain ⟨loader, given, rfl⟩ := Option.map_eq_some_iff.mp delivered
  exact ⟨rfl, rfl, rfl, rfl, rfl, rfl, rfl, rfl, Loader.deliver?_precedes given,
    Loader.hasSettled_deliver? given, fun _ => rfl, Adds.refl _ stage⟩

theorem lookup_passes (stage : Stage) (name : String) :
    Passes stage (stage.lookup name).1 := by
  unfold lookup
  split
  · exact report_passes stage _
  · rename_i record _
    have played := animate_passes stage (.replay name) (fun _ _ _ => rfl)
      record.element record.options
    exact ⟨played.settings, played.bindings, played.subscribers, played.listeners,
      played.pending, played.bindingCount, played.subscriptionCount, played.runCount,
      played.precedes, played.hasSettled,
      fun other => Registry.registered_setLastRun _ name other _, played.adds⟩

/-- What is kept by warnings and by a timeline that starts is kept by a sequence. -/
theorem sequence_induction {motive : Stage → Prop} {stage : Stage} (holds : motive stage)
    (names : List String) (options : Fields Value)
    (reported : ∀ before diagnostic, diagnostic.level = .warning → motive before →
      motive (before.report diagnostic))
    (started : ∀ before, before.registry = stage.registry → motive before →
      motive { before with
        handleCount := before.handleCount + 1
        history := .sequenced ⟨before.handleCount + 1⟩
          (TimelineStep.ofNames stage.registry names) options :: before.history }) :
    motive (stage.sequence names options).1 := by
  let missing := (TimelineStep.missing stage.registry names).map missingStep
  -- names that are missing are reported before the timeline is made of the registry
  obtain ⟨warned, registry⟩ : motive (stage.reportAll missing) ∧
      (stage.reportAll missing).registry = stage.registry := by
    refine List.foldlRecOn (motive := fun later => motive later ∧
      later.registry = stage.registry) missing report ⟨holds, rfl⟩ ?_
    intro later kept diagnostic here
    obtain ⟨name, -, rfl⟩ := List.mem_map.mp here
    exact ⟨reported later _ rfl kept.1, kept.2⟩
  unfold sequence
  dsimp only
  split
  · exact reported _ _ rfl warned
  · exact started _ registry warned

theorem sequence_passes (stage : Stage) (names : List String) (options : Fields Value) :
    Passes stage (stage.sequence names options).1 := by
  refine sequence_induction (.refl stage) names options
    (fun _ diagnostic _ early => early.trans (report_passes _ diagnostic)) fun before _ early => ?_
  have kind : (Event.sequenced ⟨before.handleCount + 1⟩
    (TimelineStep.ofNames stage.registry names) options).isUnbound = true := rfl
  exact early.trans (.of_same rfl rfl rfl rfl rfl rfl rfl rfl rfl rfl (.single kind rfl))

/-- **What concerns no binding passes.** -/
theorem perform_passes (stage : Stage) {operation : Operation}
    (unbound : operation.isUnbound = true) : Passes stage (stage.perform operation) := by
  cases operation with
  | lookup name => exact lookup_passes stage name
  | sequence names options => exact sequence_passes stage names options
  | animate element options =>
    exact animate_passes stage .direct (fun _ _ _ => rfl) element options
  | followScroll link =>
    have kind : (Event.followedScroll link).isUnbound = true := rfl
    exact .of_same rfl rfl rfl rfl rfl rfl rfl rfl rfl rfl (.single kind rfl)
  | deliver name delivery =>
    show Passes stage ((stage.deliver? name delivery).getD stage)
    cases delivered : stage.deliver? name delivery with
    | none => exact .refl stage
    | some later => exact deliver?_passes delivered
  | apply | input | tick => cases unbound
  | _ => exact .of_same rfl rfl rfl rfl rfl rfl rfl rfl rfl rfl (.refl _ stage)

/-! ## Releases -/

theorem filter_notMem_nil {α : Type} (entries : List (SubscriptionId × α)) :
    (entries.filter fun entry => entry.1 ∉ ([] : List SubscriptionId)) = entries :=
  List.filter_eq_self.mpr (by simp)

theorem foldl_unsubscribe_eq (id : BindingId) (subscriptions : List SubscriptionId)
    (stage : Stage) :
    subscriptions.foldl (unsubscribe id) stage =
      { stage with
        subscribers := stage.subscribers.filter fun entry => entry.1 ∉ subscriptions
        listeners := stage.listeners.filter fun entry => entry.1 ∉ subscriptions
        history := (subscriptions.map (Event.unsubscribed id)).reverse ++ stage.history } := by
  induction subscriptions generalizing stage with
  | nil =>
    show stage = { stage with subscribers := _, listeners := _, history := _ }
    rw [filter_notMem_nil, filter_notMem_nil]
    rfl
  | cons subscription rest ih =>
    rw [List.foldl_cons, ih]
    simp [unsubscribe, List.filter_filter, Bool.and_comm]

/-- The events of the end of a binding, the latest first. -/
def farewell (settings : Settings) (binding : Binding) : List Event :=
  (if isObserving settings binding.view then
    [.unobserved binding.id binding.element] else []) ++
  ((binding.subscriptions.map (Event.unsubscribed binding.id)).reverse ++
    [.released binding.id])

theorem mem_farewell {settings : Settings} {binding : Binding} {event : Event} :
    event ∈ farewell settings binding ↔
      (isObserving settings binding.view = true ∧
        event = .unobserved binding.id binding.element) ∨
      (∃ subscription ∈ binding.subscriptions, event = .unsubscribed binding.id subscription) ∨
      event = .released binding.id := by
  unfold farewell
  split <;> simp [*, eq_comm]

/-- A binding that is released goes with its subscriptions and its observation. -/
theorem releaseOne_eq (stage : Stage) (binding : Binding) :
    stage.releaseOne binding =
      { stage with
        bindings := stage.bindings.filter fun other => other.id ≠ binding.id
        subscribers := stage.subscribers.filter fun entry => entry.1 ∉ binding.subscriptions
        listeners := stage.listeners.filter fun entry => entry.1 ∉ binding.subscriptions
        history := farewell stage.settings binding ++ stage.history } := by
  unfold releaseOne
  dsimp only
  rw [foldl_unsubscribe_eq, farewell]
  dsimp only
  split <;> simp [record]

theorem foldl_releaseOne_eq (released : List Binding) (stage : Stage) :
    released.foldl releaseOne stage =
      { stage with
        bindings := stage.bindings.filter fun binding =>
          !(released.map Binding.id).contains binding.id
        subscribers := stage.subscribers.filter fun entry =>
          entry.1 ∉ released.flatMap Binding.subscriptions
        listeners := stage.listeners.filter fun entry =>
          entry.1 ∉ released.flatMap Binding.subscriptions
        history := released.reverse.flatMap (farewell stage.settings) ++ stage.history } := by
  induction released generalizing stage with
  | nil =>
    have all : (stage.bindings.filter fun binding =>
        !([] : List BindingId).contains binding.id) = stage.bindings :=
      List.filter_eq_self.mpr (by simp)
    show stage = { stage with bindings := _, subscribers := _, listeners := _, history := _ }
    rw [List.flatMap_nil, filter_notMem_nil, filter_notMem_nil, List.map_nil, all]
    rfl
  | cons binding rest ih =>
    rw [List.foldl_cons, ih, releaseOne_eq]
    simp [List.filter_filter, Bool.and_comm]

theorem dropRuns_eq (stage : Stage) (ids : List BindingId) :
    stage.dropRuns ids =
      { stage with
        pending := stage.pending.filter fun run => !ids.contains run.binding
        history :=
          ((stage.pending.filter fun run => ids.contains run.binding).map
            fun run => Event.dropped run.run run.binding).reverse ++ stage.history } :=
  foldl_record_eq (fun run : PendingRun => Event.dropped run.run run.binding) _ _

/-- **What a release leaves of a stage.** -/
theorem release_eq (stage : Stage) (chosen : Binding → Bool) :
    stage.release chosen =
      let released := stage.bindings.filter chosen
      let ids := released.map Binding.id
      let subscriptions := released.flatMap Binding.subscriptions
      { stage with
        bindings := stage.bindings.filter fun binding => !ids.contains binding.id
        subscribers := stage.subscribers.filter fun entry => entry.1 ∉ subscriptions
        listeners := stage.listeners.filter fun entry => entry.1 ∉ subscriptions
        pending := stage.pending.filter fun run => !ids.contains run.binding
        history :=
          ((stage.pending.filter fun run => ids.contains run.binding).map
            fun run => Event.dropped run.run run.binding).reverse ++
          (released.reverse.flatMap (farewell stage.settings) ++ stage.history) } := by
  rw [release, dropRuns_eq, foldl_releaseOne_eq]

/-- What is left after a release was there before, and was not chosen. -/
theorem mem_release_bindings {stage : Stage} {chosen : Binding → Bool} {binding : Binding} :
    binding ∈ (stage.release chosen).bindings ↔ binding ∈ stage.bindings ∧
      ∀ other ∈ stage.bindings, chosen other = true → other.id ≠ binding.id := by
  rw [release_eq]
  simp

/-- What a release adds is of a kind, if the ends of its bindings and the drops of runs are. -/
theorem release_adds {kind : Event → Bool} (stage : Stage) (chosen : Binding → Bool)
    (farewells : ∀ binding ∈ stage.bindings, chosen binding = true →
      ∀ event ∈ farewell stage.settings binding, kind event = true)
    (drops : ∀ binding ∈ stage.bindings, chosen binding = true →
      ∀ run, kind (.dropped run binding.id) = true) :
    Adds kind stage (stage.release chosen) := by
  rw [release_eq]
  refine ⟨_ ++ _, ?_, (List.append_assoc _ _ _).symm⟩
  intro event here
  rcases List.mem_append.mp here with here | here
  · obtain ⟨waiting, among, rfl⟩ := List.mem_map.mp (List.mem_reverse.mp here)
    have goes := List.contains_iff_mem.mp (List.mem_filter.mp among).2
    obtain ⟨binding, isChosen, own⟩ := List.mem_map.mp goes
    obtain ⟨there, released⟩ := List.mem_filter.mp isChosen
    exact own ▸ drops binding there released waiting.run
  · obtain ⟨binding, isChosen, among⟩ := List.mem_flatMap.mp here
    obtain ⟨there, goes⟩ := List.mem_filter.mp (List.mem_reverse.mp isChosen)
    exact farewells binding there goes event among

/-- What the release of some bindings does to a stage, where the waiting runs of some
bindings are dropped. -/
structure Releases (ids dropped : List BindingId) (before after : Stage) : Prop where
  settings : after.settings = before.settings
  data : after.data = before.data
  source : after.source = before.source
  loader : after.loader = before.loader
  registry : after.registry = before.registry
  diagnostics : after.diagnostics = before.diagnostics
  bindingCount : after.bindingCount = before.bindingCount
  subscriptionCount : after.subscriptionCount = before.subscriptionCount
  handleCount : after.handleCount = before.handleCount
  runCount : after.runCount = before.runCount
  subscribers : after.subscribers.Sublist before.subscribers
  bindings : after.bindings = before.bindings.filter fun binding => !ids.contains binding.id
  pending : after.pending = before.pending.filter fun run => !dropped.contains run.binding
  adds : Adds Event.isEnding before after

/-- **What a release changes.** -/
theorem release_releases (stage : Stage) (chosen : Binding → Bool) :
    Releases ((stage.bindings.filter chosen).map Binding.id)
      ((stage.bindings.filter chosen).map Binding.id) stage (stage.release chosen) := by
  have adds : Adds Event.isEnding stage (stage.release chosen) := by
    refine release_adds stage chosen ?_ fun _ _ _ _ => rfl
    intro binding _ _ event here
    rcases mem_farewell.mp here with ⟨-, rfl⟩ | ⟨subscription, -, rfl⟩ | rfl <;> rfl
  rw [release_eq] at adds ⊢
  exact ⟨rfl, rfl, rfl, rfl, rfl, rfl, rfl, rfl, rfl, rfl, List.filter_sublist, rfl, rfl, adds⟩

/-! ## Bindings that begin -/

/-- What a binding that begins does to a stage. -/
structure Binds (label : String) (animation : Animation) (chain : Chain)
    (before after : Stage) (id : BindingId) : Prop where
  settings : after.settings = before.settings
  data : after.data = before.data
  source : after.source = before.source
  loader : after.loader = before.loader
  registry : after.registry = before.registry
  pending : after.pending = before.pending
  diagnostics : after.diagnostics = before.diagnostics
  handleCount : after.handleCount = before.handleCount
  runCount : after.runCount = before.runCount
  id_eq : id = ⟨before.bindingCount + 1⟩
  bindingCount : after.bindingCount = before.bindingCount + 1
  bindings : ∃ subscriptions, after.bindings = before.bindings ++
    [⟨id, label, animation, chain, subscriptions,
      if animation.triggers.visible then .waiting else .notObserved, none, none⟩]
  subscribers : ∃ added, after.subscribers = before.subscribers ++ added ∧
    ∀ entry ∈ added, entry.2 = id
  adds : Adds Event.isBeginning before after

/-- The subscriptions to some root names that are given the numbers after a count. -/
def freshSubscriptions (count : Nat) (roots : List String) : List (SubscriptionId × String) :=
  (roots.zipIdx (count + 1)).map fun root => (⟨root.2⟩, root.1)

/-- There is one new subscription for each root. -/
theorem map_snd_freshSubscriptions (count : Nat) (roots : List String) :
    (freshSubscriptions count roots).map Prod.snd = roots := by
  rw [freshSubscriptions, List.map_map]
  exact List.zipIdx_map_fst (count + 1) roots

theorem foldl_subscribe_eq (id : BindingId) (roots : List String) (stage : Stage)
    (held : List SubscriptionId) :
    roots.foldl (subscribe id) (stage, held) =
      let fresh := freshSubscriptions stage.subscriptionCount roots
      ({ stage with
          subscriptionCount := stage.subscriptionCount + roots.length
          subscribers := stage.subscribers ++ fresh.map fun entry => (entry.1, id)
          listeners := stage.listeners ++ fresh
          history := (fresh.map fun entry =>
            Event.subscribed id entry.2 entry.1).reverse ++ stage.history },
        held ++ fresh.map Prod.fst) := by
  induction roots generalizing stage held with
  | nil => simp [freshSubscriptions]
  | cons root rest ih =>
    rw [List.foldl_cons, subscribe, ih]
    simp [freshSubscriptions, List.zipIdx_cons, Nat.add_assoc, Nat.add_comm 1]

/-- The events of the beginning of a binding, the latest first. -/
def welcome (id : BindingId) (label : String) (animation : Animation)
    (fresh : List (SubscriptionId × String)) : List Event :=
  (if animation.triggers.visible then [.observed id animation.element] else []) ++
  ((fresh.map fun entry => Event.subscribed id entry.2 entry.1).reverse ++
    [.bound id label animation])

theorem mem_welcome {id : BindingId} {label : String} {animation : Animation}
    {fresh : List (SubscriptionId × String)} {event : Event} :
    event ∈ welcome id label animation fresh ↔
      (animation.triggers.visible = true ∧ event = .observed id animation.element) ∨
      (∃ entry ∈ fresh, event = .subscribed id entry.2 entry.1) ∨
      event = .bound id label animation := by
  unfold welcome
  split <;> simp [*, eq_comm]

theorem isBeginning_of_mem_welcome {id : BindingId} {label : String} {animation : Animation}
    {fresh : List (SubscriptionId × String)} {event : Event}
    (here : event ∈ welcome id label animation fresh) : event.isBeginning = true := by
  rcases mem_welcome.mp here with ⟨-, rfl⟩ | ⟨entry, -, rfl⟩ | rfl <;> rfl

/-- **What binding an animation makes of a stage.** -/
theorem bind_eq (stage : Stage) (label : String) (animation : Animation) (chain : Chain) :
    stage.bind label animation chain =
      let id : BindingId := ⟨stage.bindingCount + 1⟩
      let names := roots (stage.data.scope chain) animation
      let fresh := freshSubscriptions stage.subscriptionCount names
      ({ stage with
          bindingCount := stage.bindingCount + 1
          subscriptionCount := stage.subscriptionCount + names.length
          subscribers := stage.subscribers ++ fresh.map fun entry => (entry.1, id)
          listeners := stage.listeners ++ fresh
          bindings := stage.bindings ++
            [⟨id, label, animation, chain, fresh.map Prod.fst,
              if animation.triggers.visible then .waiting else .notObserved, none, none⟩]
          history := welcome id label animation fresh ++ stage.history },
        id) := by
  unfold bind
  dsimp only
  rw [foldl_subscribe_eq, welcome]
  dsimp only
  split <;> simp [record]

/-- **What binding an animation changes.** -/
theorem bind_binds (stage : Stage) (label : String) (animation : Animation) (chain : Chain) :
    Binds label animation chain stage (stage.bind label animation chain).1
      (stage.bind label animation chain).2 := by
  rw [bind_eq]
  refine ⟨rfl, rfl, rfl, rfl, rfl, rfl, rfl, rfl, rfl, rfl, rfl, ⟨_, rfl⟩, ⟨_, rfl, ?_⟩,
    _, fun _ => isBeginning_of_mem_welcome, rfl⟩
  intro entry here
  obtain ⟨fresh, -, rfl⟩ := List.mem_map.mp here
  rfl

/-! ## Runs that go on -/

/-- Resolving the options of a binding only asks for helpers. -/
theorem resolve_grows (stage : Stage) (binding : Binding) :
    stage.loader.Grows (stage.resolve binding).1 :=
  Template.resolve_grows _ _ _ _

/-- Options that are left waiting wait for some helpers of the binding, all of them on their
way. -/
theorem fits_of_resolve {stage : Stage} {binding : Binding} {options : PendingOptions}
    (pending : (stage.resolve binding).2 = .ok (.pending options)) :
    Fits (stage.resolve binding).1 (Template.fieldHelpers binding.animation.options)
        (Sketch.fieldsAwaited options) ∧
      Sketch.fieldsAwaited options ≠ [] := by
  obtain ⟨sketched, isOpen⟩ := Template.sketch_of_resolve (Prod.ext rfl pending)
  exact ⟨Sketch.ofFields_fits sketched, isOpen⟩

/-- The stage on which a run of a binding was just scheduled and its template
sketched. -/
def start (stage : Stage) (binding : Binding) (reason : RunReason) : Stage :=
  { stage with
    runCount := stage.runCount + 1
    loader := (stage.resolve binding).1
    history := .scheduled (stage.runCount + 1) binding.id reason :: stage.history }

/-- A schedule starts a run, which goes on at once. -/
theorem schedule_eq {stage : Stage} {id : BindingId} {binding : Binding}
    (found : stage.binding? id = some binding) (reason : RunReason) :
    stage.schedule id reason =
      (stage.start binding reason).advance (stage.runCount + 1) binding reason
        (stage.resolve binding).2 := by
  obtain ⟨-, rfl⟩ := mem_bindings_of_binding? found
  unfold schedule
  rw [found]
  rfl

theorem schedule_of_none {stage : Stage} {id : BindingId}
    (missing : stage.binding? id = none) (reason : RunReason) :
    (stage.schedule id reason).1 = stage := by
  unfold schedule
  rw [missing]

/-- The stage on which a waiting run was just polled. -/
def polled (stage : Stage) (waiting : PendingRun) : Stage :=
  { stage with loader := (waiting.options.poll stage.loader).1 }

/-- A poll lets a waiting run go on. -/
theorem pollRun_eq {stage : Stage} {waiting : PendingRun} {binding : Binding}
    (found : stage.binding? waiting.binding = some binding) (plays : Nat) :
    (pollRun (stage, plays) waiting).1 =
      ((stage.polled waiting).advance waiting.run binding waiting.reason
        (waiting.options.poll stage.loader).2).1 := by
  unfold pollRun
  dsimp only
  rw [found]
  rfl

/-- A waiting run whose binding is gone is dropped when it is polled. -/
theorem pollRun_of_none {stage : Stage} {waiting : PendingRun}
    (missing : stage.binding? waiting.binding = none) (plays : Nat) :
    (pollRun (stage, plays) waiting).1 =
      stage.record (.dropped waiting.run waiting.binding) := by
  unfold pollRun
  dsimp only
  rw [missing]

theorem binding?_polled {stage : Stage} {waiting : PendingRun} {binding : Binding}
    (found : stage.binding? waiting.binding = some binding) :
    (stage.polled waiting).binding? binding.id = some binding := by
  rw [(mem_bindings_of_binding? found).2]
  exact found

/-- A schedule finds no binding, or a run of the binding goes on. -/
theorem schedule_cases {motive : Stage → Prop} (stage : Stage) (id : BindingId)
    (reason : RunReason) (missing : motive stage)
    (goesOn : ∀ binding, (stage.start binding reason).binding? binding.id = some binding →
      binding.id = id → ∀ outcome, motive
        ((stage.start binding reason).advance (stage.runCount + 1) binding reason outcome).1) :
    motive (stage.schedule id reason).1 := by
  cases found : stage.binding? id with
  | none =>
    rw [schedule_of_none found]
    exact missing
  | some binding =>
    obtain ⟨-, rfl⟩ := mem_bindings_of_binding? found
    rw [schedule_eq found]
    exact goesOn binding found rfl _

/-- A poll finds no binding, and the run is dropped, or lets the run go on. -/
theorem pollRun_cases {motive : Stage → Prop} (state : Stage × Nat) (waiting : PendingRun)
    (missing : motive (state.1.record (.dropped waiting.run waiting.binding)))
    (goesOn : ∀ binding, (state.1.polled waiting).binding? binding.id = some binding →
      binding.id = waiting.binding → ∀ outcome, motive
        ((state.1.polled waiting).advance waiting.run binding waiting.reason outcome).1) :
    motive (pollRun state waiting).1 := by
  obtain ⟨stage, plays⟩ := state
  cases found : stage.binding? waiting.binding with
  | none =>
    rw [pollRun_of_none found]
    exact missing
  | some binding =>
    rw [pollRun_eq found]
    exact goesOn binding (binding?_polled found) (mem_bindings_of_binding? found).2 _

/-- The change that a run makes in the bindings reaches its own only. -/
theorem advance_touches {stage : Stage} {binding : Binding}
    (found : stage.binding? binding.id = some binding) (run : RunId) (reason : RunReason)
    (outcome : Except ResolveError Resolution) :
    (stage.advance run binding reason outcome).1.settings = stage.settings ∧
      ∃ change, Touches binding.id change ∧
        (stage.advance run binding reason outcome).1.bindings = stage.bindings.map change := by
  match outcome with
  | .ok (.ready resolved) =>
    have dispatches := dispatch_dispatches found run reason resolved
    obtain ⟨change, touches, -, changed⟩ := dispatches.bindings
    exact ⟨dispatches.keeps.settings, change, touches, changed⟩
  | .ok (.pending options) =>
    exact ⟨rfl, _, Touches.refl binding.id, (List.map_id' stage.bindings).symm⟩
  | .error error =>
    exact ⟨rfl, _, Touches.refl binding.id, (List.map_id' stage.bindings).symm⟩

theorem schedule_touches (stage : Stage) (id : BindingId) (reason : RunReason) :
    (stage.schedule id reason).1.settings = stage.settings ∧
      ∃ change, Touches id change ∧
        (stage.schedule id reason).1.bindings = stage.bindings.map change := by
  refine schedule_cases (motive := fun after => after.settings = stage.settings ∧
    ∃ change, Touches id change ∧ after.bindings = stage.bindings.map change) stage id reason
    ⟨rfl, _, Touches.refl id, (List.map_id' stage.bindings).symm⟩ ?_
  rintro binding found rfl outcome
  exact advance_touches found _ reason outcome

/-! ## Entries into view -/

/-- The stage on which a binding's element has just entered the view, before a run is
scheduled for that. -/
def lookAt (stage : Stage) (binding : Binding) : Stage :=
  let stage := stage.update binding.id fun binding => { binding with view := .entered }
  if stage.settings.inViewOnce then
    stage.record (.unobserved binding.id binding.element)
  else stage

theorem enter_eq (stage : Stage) (binding : Binding) :
    stage.enter binding = ((stage.lookAt binding).schedule binding.id .enteredView).1 := rfl

/-- What entering the view changes before a run is scheduled for it. -/
structure Looks (binding : Binding) (before after : Stage) : Prop where
  settings : after.settings = before.settings
  data : after.data = before.data
  source : after.source = before.source
  loader : after.loader = before.loader
  registry : after.registry = before.registry
  subscribers : after.subscribers = before.subscribers
  pending : after.pending = before.pending
  diagnostics : after.diagnostics = before.diagnostics
  bindingCount : after.bindingCount = before.bindingCount
  runCount : after.runCount = before.runCount
  bindings : after.bindings = before.bindings.map fun other =>
    if other.id = binding.id then { other with view := .entered } else other
  adds : Adds Event.isEnding before after

theorem lookAt_looks (stage : Stage) (binding : Binding) :
    Looks binding stage (stage.lookAt binding) := by
  unfold lookAt
  dsimp only
  split
  · exact ⟨rfl, rfl, rfl, rfl, rfl, rfl, rfl, rfl, rfl, rfl, rfl,
      [.unobserved binding.id binding.element], by simp [Event.isEnding], rfl⟩
  · exact ⟨rfl, rfl, rfl, rfl, rfl, rfl, rfl, rfl, rfl, rfl, rfl, Adds.refl _ stage⟩

/-- Entering the view touches other bindings not at all. -/
theorem enter_bindings (stage : Stage) (binding : Binding) :
    (stage.enter binding).settings = stage.settings ∧
      ∃ change, Touches binding.id change ∧
        (stage.enter binding).bindings = (stage.bindings.map fun other =>
          if other.id = binding.id then { other with view := .entered } else other).map
            change := by
  have looks := lookAt_looks stage binding
  obtain ⟨settings, change, touches, changed⟩ :=
    schedule_touches (stage.lookAt binding) binding.id .enteredView
  rw [enter_eq]
  exact ⟨settings.trans looks.settings, change, touches, by rw [changed, looks.bindings]⟩

end Stage

end Choreography
