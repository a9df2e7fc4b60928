import Choreography.Helper.Catalogue
import Choreography.Proofs.Resolution.Reads
import Choreography.Proofs.Stage.Subscriptions

/-!
# What a binding has watched

When an animation is bound, the host is asked to watch the roots of its references, and of
those in the arguments of its calls.  A run reads these texts again and asks the scope of that
moment, yet never for another root, and takes nothing else from the data
(`schedule_withData`).  So **where the same names are in scope and the watched roots have the
same values, an animation shows the same** (`watched_roots_suffice`).
-/

namespace Choreography

namespace Stage

/-! ## Watched roots -/

theorem mem_sources {scope : Scope} {animation : Animation} {reference : Reference} :
    reference ∈ sources scope animation ↔
      reference ∈ Template.fieldSources scope animation.options := by
  simp only [sources, Animation.references, Animation.calls, Template.fieldSources,
    List.mem_eraseDups, List.mem_append]

theorem mem_roots {scope : Scope} {animation : Animation} {root : String} :
    root ∈ roots scope animation ↔
      ∃ reference ∈ Template.fieldSources scope animation.options, reference.root = root := by
  simp only [roots, List.mem_eraseDups, List.mem_map, mem_sources]

/-- The roots of an animation are all that its references ask two scopes for. -/
theorem agreeOn_of_roots {scope first second : Scope} {animation : Animation}
    (agree : ∀ root ∈ roots scope animation, first.get? root = second.get? root) :
    Scope.AgreeOn (Template.fieldSources scope animation.options) first second :=
  fun reference here => agree reference.root (mem_roots.mpr ⟨reference, here, rfl⟩)

/-- Which references there are in an animation does not depend on the values in a scope. -/
theorem fieldSources_congr {first second : Scope} (same : first.SameNames second)
    (options : Fields Template) :
    Template.fieldSources first options = Template.fieldSources second options := by
  have each : (fun call : Call => Arguments.references first call.arguments) =
      fun call => Arguments.references second call.arguments :=
    funext fun call => Arguments.references_congr same call.arguments
  rw [Template.fieldSources, Template.fieldSources, each]

/-- While an animation is bound the host is asked to watch its roots, and no others. -/
theorem subscribed_bind_iff (stage : Stage) (label : String) (animation : Animation)
    (chain : Chain) (root : String) :
    (∃ subscription, .subscribed (stage.bind label animation chain).2 root subscription ∈
        (stage.bind label animation chain).1.eventsSince stage.history.length) ↔
      root ∈ roots (stage.data.scope chain) animation := by
  have names := map_snd_freshSubscriptions stage.subscriptionCount
    (roots (stage.data.scope chain) animation)
  rw [bind_eq, eventsSince_of_append rfl]
  constructor
  · rintro ⟨subscription, made⟩
    rw [List.mem_reverse, mem_welcome_subscribed] at made
    exact names ▸ List.mem_map_of_mem made.2
  · intro here
    rw [← names] at here
    obtain ⟨⟨subscription, root⟩, among, rfl⟩ := List.mem_map.mp here
    exact ⟨subscription, List.mem_reverse.mpr (mem_welcome_subscribed.mpr ⟨rfl, among⟩)⟩

/-! ## Runs on other data -/

/-- The stage with other data. -/
def withData (stage : Stage) (data : Store) : Stage := { stage with data := data }

section

variable (data : Store)

/-- What is answered together with a stage stays when the stage has other data. -/
def andData {α : Type} (state : Stage × α) : Stage × α := (state.1.withData data, state.2)

theorem play_withData (stage : Stage) (run : RunId) (id : BindingId) (options : Fields Value) :
    (stage.withData data).play run id options = andData data (stage.play run id options) := by
  have same : (stage.withData data).binding? id = stage.binding? id := rfl
  unfold play
  rw [same]
  cases stage.binding? id with
  | none => rfl
  | some binding =>
    dsimp only
    cases binding.animation.name <;> rfl

theorem applyTrigger_withData (run : RunId) (id : BindingId) (reason : RunReason)
    (view : ViewState) (options : Fields Value) (link : ScrollLink) (state : Stage × Nat)
    (trigger : Trigger) :
    applyTrigger run id reason view options link (andData data state) trigger =
      andData data (applyTrigger run id reason view options link state trigger) := by
  obtain ⟨stage, plays⟩ := state
  cases trigger with
  | visible =>
    unfold applyTrigger
    dsimp only [andData]
    split
    · rw [play_withData]
      rfl
    · rfl
  | scroll =>
    unfold applyTrigger
    dsimp only [andData]
    split
    · rfl
    · rw [play_withData]
      rfl

theorem foldl_applyTrigger_withData (run : RunId) (id : BindingId) (reason : RunReason)
    (view : ViewState) (options : Fields Value) (link : ScrollLink) (triggers : List Trigger)
    (state : Stage × Nat) :
    triggers.foldl (applyTrigger run id reason view options link) (andData data state) =
      andData data (triggers.foldl (applyTrigger run id reason view options link) state) := by
  induction triggers generalizing state with
  | nil => rfl
  | cons trigger rest ih =>
    rw [List.foldl_cons, applyTrigger_withData]
    exact ih (applyTrigger run id reason view options link state trigger)

theorem prepare_withData (stage : Stage) (run : RunId) (binding : Binding)
    (resolved : Fields Value) :
    (stage.withData data).prepare run binding resolved =
      andData data (stage.prepare run binding resolved) := by
  unfold prepare
  simp only [note_eq]
  cases binding.animation.name with
  | none => rfl
  | some name =>
    dsimp only [register]
    rw [note_eq, note_eq]
    rfl

theorem dispatch_withData {stage : Stage} {binding : Binding}
    (found : stage.binding? binding.id = some binding) (run : RunId) (reason : RunReason)
    (resolved : Fields Value) :
    (stage.withData data).dispatch run binding.id reason resolved =
      andData data (stage.dispatch run binding.id reason resolved) := by
  have still : (stage.withData data).binding? binding.id = some binding := found
  rw [dispatch_eq found, dispatch_eq still, prepare_withData]
  dsimp only
  split
  · rw [apply_ite (andData data)]
    refine ite_congr rfl (fun _ => rfl) fun _ => ?_
    exact congrArg (fun played : Stage × Handle => (played.1, 1))
      (play_withData data _ run binding.id _)
  · exact foldl_applyTrigger_withData data _ _ _ _ _ _ _ (_, _)

/-- How a run goes on does not depend on the data any more. -/
theorem advance_withData {stage : Stage} {binding : Binding}
    (found : stage.binding? binding.id = some binding) (run : RunId) (reason : RunReason)
    (outcome : Except ResolveError Resolution) :
    (stage.withData data).advance run binding reason outcome =
      andData data (stage.advance run binding reason outcome) := by
  match outcome with
  | .ok (.ready resolved) => exact dispatch_withData data found run reason resolved
  | .ok (.pending options) => rfl
  | .error error => rfl

end

/-- **A run does the same on data that differ in what is not watched only.** -/
theorem schedule_withData {stage : Stage} {id : BindingId} {binding : Binding}
    (found : stage.binding? id = some binding) {data : Store}
    (same : (stage.data.scope binding.chain).SameNames (data.scope binding.chain))
    (agree : Scope.AgreeOn
      (Template.fieldSources (stage.data.scope binding.chain) binding.animation.options)
      (stage.data.scope binding.chain) (data.scope binding.chain))
    (reason : RunReason) :
    (stage.withData data).schedule id reason = andData data (stage.schedule id reason) := by
  have resolved : (stage.withData data).resolve binding = stage.resolve binding :=
    (Template.resolve_congr same _ stage.loader agree).symm
  have started : (stage.withData data).start binding reason =
      (stage.start binding reason).withData data := by
    unfold start
    rw [resolved]
    rfl
  obtain ⟨-, rfl⟩ := mem_bindings_of_binding? found
  have still : (stage.withData data).binding? binding.id = some binding := found
  have begun : (stage.start binding reason).binding? binding.id = some binding := found
  rw [schedule_eq found, schedule_eq still, started, resolved]
  exact advance_withData data begun _ reason _

/-! ## What the watched roots are enough for -/

/-- **The watched roots are all that an animation shows of the data.**  Let an animation be
bound to a chain, and let two scopes have the names that are in scope then, and give every
root that the host is asked to watch for it the same value.  Then its options are resolved
alike in both, for any helpers in any state: to the same error, the same values, or the same
places left open.  So on any later stage where it is bound, a run that is scheduled on the one
scope does what it does on the other. -/
theorem watched_roots_suffice (stage : Stage) (label : String) (animation : Animation)
    (chain : Chain) {first second : Scope}
    (sameFirst : (stage.data.scope chain).SameNames first)
    (sameSecond : (stage.data.scope chain).SameNames second)
    (agree : ∀ root subscription,
      .subscribed (stage.bind label animation chain).2 root subscription ∈
        (stage.bind label animation chain).1.eventsSince stage.history.length →
      first.get? root = second.get? root) :
    (∀ (source : HelperSource) (loader : Loader),
      Template.resolve source first loader animation.options =
        Template.resolve source second loader animation.options) ∧
    ∀ (later : Stage) (id : BindingId) (binding : Binding) (data : Store),
      later.binding? id = some binding → binding.animation = animation →
      binding.chain = chain → later.data.scope chain = first → data.scope chain = second →
      ∀ reason, (later.withData data).schedule id reason =
        andData data (later.schedule id reason) := by
  have between : first.SameNames second :=
    fun name => (sameFirst name).symm.trans (sameSecond name)
  have sources := fieldSources_congr sameFirst animation.options
  have everywhere : Scope.AgreeOn (Template.fieldSources first animation.options) first second := by
    rw [← sources]
    refine agreeOn_of_roots fun root here => ?_
    obtain ⟨subscription, watched⟩ :=
      (subscribed_bind_iff stage label animation chain root).mpr here
    exact agree root subscription watched
  refine ⟨fun source loader => Template.resolve_congr between source loader everywhere, ?_⟩
  rintro later id binding data found rfl rfl rfl rfl reason
  exact schedule_withData found between everywhere reason

namespace SpringOfData

/-- Two variables of a page. -/
def scope (stiffness other : Value) : Scope := [[("k", stiffness), ("other", other)]]

/-- A stage with these variables. -/
def stage : Stage := new .standard (scope .null .null) (Helper.builtinSource 1)

/-- An animation that reads a member of a variable, and passes it to a helper. -/
def animation : Animation :=
  ⟨none, ⟨1⟩, [("x", .invoke ⟨"spring", "k, 'other'"⟩), ("y", .lookup ⟨"k.y"⟩)], .empty⟩

end SpringOfData

open SpringOfData in
/-- A variable of which only the name stands in the text makes no difference. -/
theorem watched_roots_suffice_for_spring :
    Template.resolve (Helper.builtinSource 1) (scope (.bool true) .null) Loader.empty
        animation.options =
      Template.resolve (Helper.builtinSource 1) (scope (.bool true) (.bool true)) Loader.empty
        animation.options := by
  have same (stiffness other : Value) :
      (stage.data.scope [0]).SameNames (scope stiffness other) := by
    intro name
    show Scope.has (scope .null .null) name = Scope.has (scope stiffness other) name
    simp only [scope, Scope.has, Fields.has, List.any_cons, List.any_nil, Fields.get?]
    split
    · rfl
    · split <;> rfl
  have only : roots (stage.data.scope [0]) animation = ["k"] := by decide +kernel
  refine (watched_roots_suffice stage "x-motion" animation [0] (same _ _) (same _ _) ?_).1 _ _
  intro root subscription made
  have here := (subscribed_bind_iff stage "x-motion" animation [0] root).mp ⟨subscription, made⟩
  rw [only, List.mem_singleton] at here
  rw [here]
  rfl

end Stage

end Choreography
