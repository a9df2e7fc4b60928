import Choreography.Helper.Catalogue
import Choreography.Proofs.Stage.Departures
import Choreography.Proofs.Stage.Handles
import Choreography.Proofs.Stage.Registration

/-!
# Bystanders

A directive that is applied, an element that is torn down and one that enters the view change
bindings and names that are shared by all elements.  **The bindings of other elements and other
directives stand by** (`bystanders_spared`): each is in force as it was, with its options, its
view, its subscriptions, its last play and its waiting runs, and nothing is recorded about it.

* `Spares` — what an operation leaves of a binding that it has nothing to do with;
* `Stands` is for the binding in force, on a stage in good order, that is to be spared.
-/

namespace Choreography

namespace Stage

/-- A later stage on which a binding is as it was: it is found with all its fields unchanged, it
has the same subscriptions and the same waiting runs, and nothing has happened that is about
it. -/
structure Spares (binding : Binding) (before after : Stage) : Prop where
  found : after.binding? binding.id = before.binding? binding.id
  subscribers : (after.subscribers.filter fun entry => entry.2 = binding.id) =
    before.subscribers.filter fun entry => entry.2 = binding.id
  listeners : (after.listeners.filter fun entry => entry.1 ∈ binding.subscriptions) =
    before.listeners.filter fun entry => entry.1 ∈ binding.subscriptions
  pending : (after.pending.filter fun run => run.binding = binding.id) =
    before.pending.filter fun run => run.binding = binding.id
  silent : Adds (Event.sparesBinding binding.id) before after

namespace Spares

variable {binding : Binding} {first second third : Stage}

/-- What leaves the bindings, the subscriptions and the waiting runs alone spares a binding. -/
theorem of_same (bindings : second.bindings = first.bindings)
    (subscribers : second.subscribers = first.subscribers)
    (listeners : second.listeners = first.listeners) (pending : second.pending = first.pending)
    (silent : Adds (Event.sparesBinding binding.id) first second) :
    Spares binding first second :=
  ⟨by rw [binding?, bindings]; rfl, by rw [subscribers], by rw [listeners], by rw [pending],
    silent⟩

theorem refl (binding : Binding) (stage : Stage) : Spares binding stage stage :=
  of_same rfl rfl rfl rfl (Adds.refl _ stage)

theorem trans (early : Spares binding first second) (late : Spares binding second third) :
    Spares binding first third where
  found := late.found.trans early.found
  subscribers := late.subscribers.trans early.subscribers
  listeners := late.listeners.trans early.listeners
  pending := late.pending.trans early.pending
  silent := early.silent.trans late.silent

end Spares

/-- A binding in force on a stage in good order. -/
structure InForce (binding : Binding) (stage : Stage) : Prop where
  sound : Sound stage []
  subscribed : Subscribed stage
  here : binding ∈ stage.bindings

namespace InForce

variable {binding : Binding} {stage after : Stage}

theorem found (inForce : InForce binding stage) : stage.binding? binding.id = some binding :=
  binding?_of_mem inForce.sound.distinct inForce.here

/-- A binding that was spared is still in force. -/
theorem spared (inForce : InForce binding stage) (spares : Spares binding stage after)
    (sound : Sound after []) (subscribed : Subscribed after) : InForce binding after :=
  ⟨sound, subscribed,
    (mem_bindings_of_binding? (spares.found.trans inForce.found)).1⟩

/-- There is no other binding with its id. -/
theorem eq_of_id (inForce : InForce binding stage) {other : Binding}
    (there : other ∈ stage.bindings) (same : other.id = binding.id) : other = binding :=
  List.inj_on_of_nodup_map inForce.sound.distinct there inForce.here same

/-- There is no other binding with one of its subscriptions. -/
theorem eq_of_subscription (inForce : InForce binding stage) {other : Binding}
    (there : other ∈ stage.bindings) {subscription : SubscriptionId}
    (holds : subscription ∈ binding.subscriptions) (shares : subscription ∈ other.subscriptions) :
    other = binding :=
  inForce.subscribed.eq_of_holds inForce.sound.distinct there inForce.here shares holds

end InForce

/-! ## What other bindings do -/

/-- A binding is found as it was where only one of another id has changed. -/
theorem binding?_of_changed {before after : Stage} {id other : BindingId}
    {change : Binding → Binding} (ids : ∀ binding, (change binding).id = binding.id)
    (others : ∀ binding, binding.id ≠ id → change binding = binding)
    (changed : after.bindings = before.bindings.map change) (different : other ≠ id) :
    after.binding? other = before.binding? other := by
  have same : ((fun binding : Binding => decide (binding.id = other)) ∘ change) =
      fun binding => decide (binding.id = other) :=
    funext fun binding => by simp [ids]
  rw [binding?, changed, List.find?_map, same]
  show (before.binding? other).map change = before.binding? other
  cases found : before.binding? other with
  | none => rfl
  | some binding =>
    have own := (mem_bindings_of_binding? found).2
    exact congrArg some (others binding (own.symm ▸ different))

section

variable {binding : Binding} {stage : Stage}

theorem Passes.spares {after : Stage} (passes : Passes stage after) :
    Spares binding stage after :=
  .of_same passes.bindings passes.subscribers passes.listeners passes.pending
    (passes.adds.mono fun _ => Event.sparesBinding_of_isUnbound binding.id)

/-- A run that goes on spares the other bindings. -/
theorem advance_spares {other : Binding} (found : stage.binding? other.id = some other)
    (different : other.id ≠ binding.id) (run : RunId) (reason : RunReason)
    (outcome : Except ResolveError Resolution) :
    Spares binding stage (stage.advance run other reason outcome).1 := by
  obtain ⟨-, change, touches, changed⟩ := advance_touches found run reason outcome
  have steady := advance_steady found run reason outcome
  refine ⟨binding?_of_changed touches.id_eq touches.others changed different.symm, ?_, ?_, ?_,
    advance_sparesBinding found different run reason outcome⟩
  · rw [steady.subscribers]
  · rw [steady.listeners]
  · have none : (remainderOf? run other.id reason outcome).toList.filter
        (fun waiting => waiting.binding = binding.id) = [] := by
      refine List.filter_eq_nil_iff.mpr fun waiting here => ?_
      have own := remainderOf?_binding (Option.mem_toList.mp here)
      simpa [own] using different
    rw [pending_of_advance found, List.filter_append, none, List.append_nil]

theorem schedule_spares {id : BindingId} (different : id ≠ binding.id) (reason : RunReason) :
    Spares binding stage (stage.schedule id reason).1 := by
  refine schedule_cases (motive := Spares binding stage) stage id reason (.refl binding stage) ?_
  rintro other found rfl outcome
  have started : Spares binding stage (stage.start other reason) :=
    .of_same rfl rfl rfl rfl (.single (Event.sparesBinding_of_about? rfl different) rfl)
  exact started.trans (advance_spares found different _ reason outcome)

theorem enter_spares {other : Binding} (different : other.id ≠ binding.id) :
    Spares binding stage (stage.enter other) := by
  have looks := lookAt_looks stage other
  have steady := lookAt_steady stage other
  have silent : Adds (Event.sparesBinding binding.id) stage (stage.lookAt other) := by
    unfold lookAt
    dsimp only
    split
    · exact .single (Event.sparesBinding_of_about? rfl different) rfl
    · exact Adds.refl _ stage
  have looked : Spares binding stage (stage.lookAt other) := by
    refine ⟨binding?_of_changed ?_ ?_ looks.bindings different.symm, ?_, ?_, ?_, silent⟩
    · intro standing
      by_cases own : standing.id = other.id <;> simp [own]
    · exact fun standing another => if_neg another
    · rw [steady.subscribers]
    · rw [steady.listeners]
    · rw [looks.pending]
  rw [enter_eq]
  exact looked.trans (schedule_spares different .enteredView)

/-- A release spares the bindings that are not chosen. -/
theorem release_spares (inForce : InForce binding stage) {chosen : Binding → Bool}
    (spared : chosen binding = false) : Spares binding stage (stage.release chosen) := by
  have others : ∀ other ∈ stage.bindings, chosen other = true → other ≠ binding := by
    rintro other - isChosen rfl
    rw [spared] at isChosen
    cases isChosen
  have ids : ∀ other ∈ stage.bindings, chosen other = true → other.id ≠ binding.id :=
    fun other there isChosen own => others other there isChosen (inForce.eq_of_id there own)
  have subscriptions : ∀ subscription ∈ binding.subscriptions,
      subscription ∉ (stage.bindings.filter chosen).flatMap Binding.subscriptions := by
    intro subscription holds among
    obtain ⟨other, isReleased, shares⟩ := List.mem_flatMap.mp among
    obtain ⟨there, isChosen⟩ := List.mem_filter.mp isReleased
    exact others other there isChosen (inForce.eq_of_subscription there holds shares)
  have remains : binding ∈ (stage.release chosen).bindings :=
    mem_release_bindings.mpr ⟨inForce.here, ids⟩
  have found : (stage.release chosen).binding? binding.id = stage.binding? binding.id :=
    (binding?_of_mem (release_sound inForce.sound chosen).distinct remains).trans
      inForce.found.symm
  have silent := release_sparesBinding chosen ids
  rw [release_eq] at found silent ⊢
  refine ⟨found, ?_, ?_, ?_, silent⟩
  · show List.filter _ (List.filter _ stage.subscribers) = _
    rw [List.filter_filter]
    refine List.filter_congr fun entry here => ?_
    by_cases own : entry.2 = binding.id
    · -- what is entered for the binding is held by it
      obtain ⟨holder, there, same, holds⟩ := inForce.subscribed.owned entry here
      rw [inForce.eq_of_id there (same.trans own)] at holds
      simpa [own] using subscriptions entry.1 holds
    · simp [own]
  · show List.filter _ (List.filter _ stage.listeners) = _
    rw [List.filter_filter]
    refine List.filter_congr fun entry here => ?_
    by_cases holds : entry.1 ∈ binding.subscriptions
    · simpa [holds] using subscriptions entry.1 holds
    · simp [holds]
  · show List.filter _ (List.filter _ stage.pending) = _
    rw [List.filter_filter]
    refine List.filter_congr fun run here => ?_
    by_cases own : run.binding = binding.id
    · simpa [own] using ids
    · simp [own]

theorem InForce.id_ne_next (inForce : InForce binding stage) :
    binding.id ≠ ⟨stage.bindingCount + 1⟩ := by
  intro same
  have counted := inForce.sound.numbered binding inForce.here
  rw [same] at counted
  exact Nat.not_succ_le_self _ counted

/-- A binding that begins spares those in force. -/
theorem bind_spares (inForce : InForce binding stage) (label : String) (animation : Animation)
    (chain : Chain) : Spares binding stage (stage.bind label animation chain).1 := by
  have binds := bind_binds stage label animation chain
  have remains : binding ∈ (stage.bind label animation chain).1.bindings := by
    obtain ⟨subscriptions, bindings⟩ := binds.bindings
    rw [bindings]
    exact List.mem_append_left _ inForce.here
  have found : (stage.bind label animation chain).1.binding? binding.id =
      stage.binding? binding.id :=
    (binding?_of_mem (bind_sound inForce.sound label animation chain).distinct remains).trans
      inForce.found.symm
  refine ⟨found, ?_, ?_, by rw [binds.pending],
    bind_sparesBinding inForce.id_ne_next label animation chain⟩
  · obtain ⟨added, subscribers, owned⟩ := binds.subscribers
    have none : added.filter (fun entry => entry.2 = binding.id) = [] := by
      refine List.filter_eq_nil_iff.mpr fun entry here => ?_
      rw [owned entry here, binds.id_eq]
      simpa using inForce.id_ne_next.symm
    rw [subscribers, List.filter_append, none, List.append_nil]
  · rw [bind_eq]
    show List.filter _ (stage.listeners ++ _) = _
    have none : (freshSubscriptions stage.subscriptionCount
        (roots (stage.data.scope chain) animation)).filter
          (fun entry => entry.1 ∈ binding.subscriptions) = [] := by
      refine List.filter_eq_nil_iff.mpr fun entry new => ?_
      intro holds
      have old := inForce.subscribed.numbered _ (inForce.subscribed.held binding inForce.here
        entry.1 (by simpa using holds))
      exact ne_of_mem_freshSubscriptions new old rfl
    rw [List.filter_append, none, List.append_nil]

end

/-! ## Names -/

section

variable {name : String}

/-- Plays of an animation of another name leave a record as it is. -/
theorem Performs.get?_registry {run : RunId} {binding current : Binding} {options : Fields Value}
    {link : ScrollLink} {count : Nat} {before after : Stage}
    (performs : Performs run binding.id options link count before after)
    (found : before.binding? binding.id = some current)
    (same : current.animation = binding.animation) (other : binding.animation.name ≠ some name) :
    Fields.get? after.registry name = Fields.get? before.registry name := by
  have step {between : Stage} {count : Nat} {before : Stage}
      (early : Performs run binding.id options link count before between)
      (found : before.binding? binding.id = some current) :
      Fields.get? (between.play run binding.id options).1.registry name =
        Fields.get? between.registry name := by
    obtain ⟨standing, inForce, own, -⟩ := (early.delivers found same).current
    rw [play_eq inForce, own]
    cases named : binding.animation.name with
    | none => rfl
    | some shown =>
      rw [named] at other
      exact (Registry.get?_setLastRun _ _ _ _).trans (if_neg fun equal => other (congrArg _ equal))
  induction performs with
  | nothing => rfl
  | played early _ ih => exact (step early found).trans (ih found)
  | linked early _ ih => exact (step early found).trans (ih found)

/-- A run that goes on writes no record but the one of its animation. -/
theorem get?_registry_advance {stage : Stage} {binding : Binding}
    (found : stage.binding? binding.id = some binding) (other : binding.animation.name ≠ some name)
    (run : RunId) (reason : RunReason) (outcome : Except ResolveError Resolution) :
    Fields.get? (stage.advance run binding reason outcome).1.registry name =
      Fields.get? stage.registry name := by
  match outcome with
  | .ok (.ready resolved) =>
    obtain ⟨current, still, same⟩ := binding?_prepare found run resolved
    have performed := (dispatch_performs found run reason resolved).get?_registry still same other
    refine performed.trans ?_
    rw [registry_prepare]
    cases named : binding.animation.name with
    | none => rfl
    | some shown =>
      rw [named] at other
      exact Registry.get?_register_of_ne _ (fun equal => other (congrArg _ equal)) _ _
  | .ok (.pending options) => rfl
  | .error error => rfl

theorem get?_registry_schedule {stage : Stage} {id : BindingId} {binding : Binding}
    (found : stage.binding? id = some binding) (other : binding.animation.name ≠ some name)
    (reason : RunReason) :
    Fields.get? (stage.schedule id reason).1.registry name = Fields.get? stage.registry name := by
  obtain ⟨-, rfl⟩ := mem_bindings_of_binding? found
  have still : (stage.start binding reason).binding? binding.id = some binding := found
  rw [schedule_eq found]
  exact get?_registry_advance still other _ reason _

/-- A binding that begins writes no record but the one of its animation, as its first run goes. -/
theorem get?_registry_install {stage : Stage} (sound : Sound stage []) (label : String)
    {animation : Animation} (other : animation.name ≠ some name) (chain : Chain) :
    Fields.get? ((stage.bind label animation chain).1.schedule
        (stage.bind label animation chain).2 .initial).1.registry name =
      Fields.get? stage.registry name := by
  have binds := bind_binds stage label animation chain
  obtain ⟨subscriptions, bindings⟩ := binds.bindings
  have here : _ ∈ (stage.bind label animation chain).1.bindings :=
    bindings ▸ List.mem_append_right _ (List.mem_singleton.mpr rfl)
  have found := binding?_of_mem (bind_sound sound label animation chain).distinct here
  rw [get?_registry_schedule found other, binds.registry]

end

/-! ## Operations -/

section

variable {binding : Binding} {stage : Stage}

/-- **Applying a directive spares the bindings of other elements and of other directives.** -/
theorem apply_spares (inForce : InForce binding stage) (element : ElementId)
    (directive : Directive) (chain : Chain)
    (other : binding.element ≠ element ∨
      binding.label ≠ directive.label stage.settings.directiveStart) :
    Spares binding stage (stage.apply element directive chain).1 := by
  let chosen (binding : Binding) : Bool :=
    binding.element = element && binding.label = directive.label stage.settings.directiveStart
  have unchosen : chosen binding = false := by
    rw [Bool.and_eq_false_iff]
    exact other.imp (by simp) (by simp)
  have released := release_spares inForce unchosen
  refine (apply_induction (motive := fun later =>
    InForce binding later ∧ Spares binding stage later) ?_ ?_ ?_).2
  · exact ⟨inForce.spared released (release_sound inForce.sound chosen)
      (release_subscribed chosen inForce.sound inForce.subscribed), released⟩
  · rintro before diagnostic ⟨current, spares⟩
    have passes := report_passes before diagnostic
    exact ⟨current.spared passes.spares (passes.sound current.sound)
      (passes.steady.subscribed current.subscribed), spares.trans passes.spares⟩
  · rintro before label animation - ⟨current, spares⟩
    have binds := bind_binds before label animation chain
    have bound := bind_spares current label animation chain
    have scheduled : Spares binding (before.bind label animation chain).1
        ((before.bind label animation chain).1.schedule
          (before.bind label animation chain).2 .initial).1 :=
      schedule_spares (binds.id_eq ▸ current.id_ne_next.symm) .initial
    refine ⟨current.spared (bound.trans scheduled)
      (schedule_sound (bind_sound current.sound label animation chain) _ .initial) ?_,
      spares.trans (bound.trans scheduled)⟩
    exact (schedule_steady _ _ .initial).subscribed
      (bind_subscribed current.subscribed label animation chain)

/-- **Applying a directive writes no record but those of the names that it compiles.** -/
theorem get?_registry_apply (sound : Sound stage []) (element : ElementId) (directive : Directive)
    (chain : Chain) {name : String}
    (other : ∀ animation ∈ (directive.compile (stage.data.scope chain) element
      (directive.label stage.settings.directiveStart)).result, animation.name ≠ some name) :
    Fields.get? (stage.apply element directive chain).1.registry name =
      Fields.get? stage.registry name := by
  refine (apply_induction_compiled (motive := fun later =>
    Sound later [] ∧ Fields.get? later.registry name = Fields.get? stage.registry name)
    ?_ ?_ ?_).2
  · exact ⟨release_sound sound _, by rw [(release_releases stage _).registry]⟩
  · rintro before diagnostic ⟨sound, same⟩
    exact ⟨(report_passes before diagnostic).sound sound, same⟩
  · rintro before label animation here ⟨sound, same⟩
    exact ⟨schedule_sound (bind_sound sound label animation chain) _ .initial,
      (get?_registry_install sound label (other animation here) chain).trans same⟩

/-- **Tearing an element down spares the bindings of the others.** -/
theorem teardown_spares (inForce : InForce binding stage) {element : ElementId}
    (other : binding.element ≠ element) :
    Spares binding stage (stage.handle (.teardown element)) :=
  (release_spares inForce (by simpa using other)).trans
    (.of_same rfl rfl rfl rfl (.single rfl rfl))

/-- It takes away the records that the element owns, and no others. -/
theorem get?_registry_teardown (reflects : Reflects stage) (element : ElementId) (name : String) :
    Fields.get? (stage.handle (.teardown element)).registry name =
      (Fields.get? stage.registry name).filter fun record => record.element ≠ element := by
  show Fields.get? ((stage.release _).registry.release element) name = _
  rw [(release_releases stage _).registry, Registry.get?_release reflects.distinct]

/-- A stage on which animations that do not wait for the view have no part in it. -/
def Unseen (stage : Stage) : Prop :=
  ∀ binding ∈ stage.bindings, binding.animation.triggers.visible = false →
    binding.view = .notObserved

/-- **An entry into view spares the bindings of other elements, and those that do not wait for
the view.** -/
theorem enteredView_spares (inForce : InForce binding stage) (unseen : Unseen stage)
    {element : ElementId}
    (other : binding.element ≠ element ∨ binding.animation.triggers.visible = false) :
    Spares binding stage (stage.handle (.enteredView element)) := by
  have different : ∀ entering ∈ stage.bindings.filter (fun entering =>
      entering.element = element && respondsToView stage.settings entering.view),
      entering.id ≠ binding.id := by
    intro entering here same
    obtain ⟨there, responds⟩ := List.mem_filter.mp here
    rw [inForce.eq_of_id there same, Bool.and_eq_true, decide_eq_true_eq] at responds
    refine other.elim (fun elsewhere => elsewhere responds.1) fun invisible => ?_
    have idle := responds.2
    rw [unseen binding inForce.here invisible] at idle
    cases idle
  exact List.foldlRecOn (motive := Spares binding stage) _ enter (.refl binding stage)
    fun before spares entering here => spares.trans (enter_spares (different entering here))

end

/-! ## Who takes part in the view -/

theorem Unseen.of_changed {stage after : Stage} (unseen : Unseen stage)
    {change : Binding → Binding}
    (animations : ∀ binding, (change binding).animation = binding.animation)
    (views : ∀ binding, (change binding).view = binding.view)
    (changed : after.bindings = stage.bindings.map change) : Unseen after := by
  intro binding here invisible
  rw [changed] at here
  obtain ⟨old, there, rfl⟩ := List.mem_map.mp here
  rw [views]
  exact unseen old there (animations old ▸ invisible)

theorem schedule_unseen {stage : Stage} (unseen : Unseen stage) (id : BindingId)
    (reason : RunReason) : Unseen (stage.schedule id reason).1 := by
  obtain ⟨-, change, touches, changed⟩ := schedule_touches stage id reason
  exact unseen.of_changed touches.animation_eq touches.view_eq changed

theorem pollRun_unseen {state : Stage × Nat} (unseen : Unseen state.1) (waiting : PendingRun) :
    Unseen (pollRun state waiting).1 := by
  refine pollRun_cases (motive := Unseen) state waiting unseen ?_
  intro binding found _ outcome
  obtain ⟨-, change, touches, changed⟩ := advance_touches found waiting.run waiting.reason outcome
  have polled : Unseen (state.1.polled waiting) := unseen
  exact polled.of_changed touches.animation_eq touches.view_eq changed

theorem step_unseen {told : Option BindingId} {before after : Stage}
    (step : Step told before after) (sound : Sound before []) (unseen : Unseen before) :
    Unseen after := by
  cases step with
  | unbound passes => exact fun binding here => unseen binding (passes.bindings ▸ here)
  | released chosen => exact fun binding here => unseen binding (mem_release_bindings.mp here).1
  | installed label animation chain =>
    refine schedule_unseen ?_ _ .initial
    obtain ⟨subscriptions, bindings⟩ := (bind_binds before label animation chain).bindings
    intro binding here invisible
    rw [bindings] at here
    rcases List.mem_append.mp here with here | here
    · exact unseen binding here invisible
    · rw [List.mem_singleton.mp here] at invisible ⊢
      exact if_neg (by simpa using invisible)
  | changed tells => exact schedule_unseen unseen _ .sourceChanged
  | entered entering responds =>
    rename_i entrant
    rw [enter_eq]
    refine schedule_unseen ?_ _ .enteredView
    intro binding here invisible
    rw [(lookAt_looks before entrant).bindings] at here
    obtain ⟨old, there, rfl⟩ := List.mem_map.mp here
    by_cases own : old.id = entrant.id
    · -- the one that enters takes part in the view, so it is none of these
      obtain rfl := List.inj_on_of_nodup_map sound.distinct there entering own
      rw [if_pos rfl] at invisible
      rw [unseen old there invisible] at responds
      cases responds
    · rw [if_neg own] at invisible ⊢
      exact unseen old there invisible
  | tornDown element gone => exact unseen

/-- **Only animations that wait for the view ever take part in it.** -/
theorem performAll_unseen {stage : Stage} (sound : Sound stage []) (unseen : Unseen stage)
    (operations : List Operation) : Unseen (stage.performAll operations) := by
  refine (performAll_invariant (fun stage queue => Sound stage queue ∧ Unseen stage)
    (fun _ both => both.1.distinct) ?_ ?_ ?_ operations stage ⟨sound, unseen⟩).2
  · exact fun stage both => ⟨takeUp_sound both.1, both.2⟩
  · exact fun stage waiting queue plays both =>
      ⟨pollRun_sound both.1 plays, pollRun_unseen both.2 waiting⟩
  · exact fun told before after step both =>
      ⟨step_sound step both.1, step_unseen step both.1 both.2⟩

/-! ## The whole run -/

/-- **Operations on one directive or element do not disturb the others.**  After any operations
on a new stage:

* a directive that is applied to an element spares every binding of another element or with
  another label, and leaves every name as it is that none of its animations has;
* an element that is torn down spares every binding of the others, and takes away the records
  that it owns at that time and no others;
* an element that enters the view spares every binding of the others, and of its own those that
  do not wait for the view. -/
theorem bystanders_spared (settings : Settings) (data : Store) (source : HelperSupply)
    (operations : List Operation) :
    let stage := (new settings data source).performAll operations
    (∀ element directive chain,
      let label := directive.label stage.settings.directiveStart
      let after := (stage.apply element directive chain).1
      (∀ binding ∈ stage.bindings, binding.element ≠ element ∨ binding.label ≠ label →
        binding ∈ after.bindings ∧ Spares binding stage after) ∧
      ∀ name, (∀ animation ∈ (directive.compile (stage.data.scope chain) element label).result,
          animation.name ≠ some name) →
        Fields.get? after.registry name = Fields.get? stage.registry name) ∧
    (∀ element,
      let after := stage.handle (.teardown element)
      (∀ binding ∈ stage.bindings, binding.element ≠ element →
        binding ∈ after.bindings ∧ Spares binding stage after) ∧
      ∀ name, Fields.get? after.registry name =
        (Fields.get? stage.registry name).filter fun record => record.element ≠ element) ∧
    ∀ element,
      let after := stage.handle (.enteredView element)
      ∀ binding ∈ stage.bindings,
        binding.element ≠ element ∨ binding.animation.triggers.visible = false →
          binding ∈ after.bindings ∧ Spares binding stage after := by
  intro stage
  have begun := new_sound settings data source
  have sound : Sound stage [] := performAll_sound begun operations
  have subscribed : Subscribed stage :=
    performAll_subscribed begun (new_subscribed settings data source) operations
  have reflects : Reflects stage :=
    performAll_reflects (new_reflects settings data source) operations
  have unseen : Unseen stage := performAll_unseen begun nofun operations
  have still {binding : Binding} {after : Stage} (here : binding ∈ stage.bindings)
      (spares : Spares binding stage after) :
      binding ∈ after.bindings ∧ Spares binding stage after :=
    ⟨(mem_bindings_of_binding? (spares.found.trans (binding?_of_mem sound.distinct here))).1,
      spares⟩
  refine ⟨fun element directive chain => ⟨fun binding here other => ?_, fun name other => ?_⟩,
    fun element => ⟨fun binding here other => ?_, fun name => ?_⟩,
    fun element binding here other => ?_⟩
  · exact still here (apply_spares ⟨sound, subscribed, here⟩ element directive chain other)
  · exact get?_registry_apply sound element directive chain other
  · exact still here (teardown_spares ⟨sound, subscribed, here⟩ other)
  · exact get?_registry_teardown reflects element name
  · exact still here (enteredView_spares ⟨sound, subscribed, here⟩ unseen other)

namespace TakenOver

/-- The second element takes over the name of the first, and waits for the view; then another
animation of the first element waits for its helper. -/
def operations : List Operation :=
  [.apply ⟨1⟩ ⟨some "fade", [], "{x: 1}"⟩ [], .apply ⟨2⟩ ⟨some "fade", ["in-view"], "{x: 2}"⟩ [],
    .apply ⟨1⟩ ⟨some "spin", [], "{x: spring()}"⟩ []]

/-- The stage after that; helpers arrive with the second poll of any run. -/
def stage : Stage := (new .standard [] (Helper.builtinSource 2)).performAll operations

/-- The first directive, with another expression. -/
def again : Directive := ⟨some "fade", [], "{x: 3}"⟩

/-- A directive that takes the place of the one that waits. -/
def plain : Directive := ⟨some "spin", [], "{x: 4}"⟩

end TakenOver

open TakenOver in
/-- A binding that waits is spared when the other directive of its element is applied again and
when the element comes into view.  When the element is torn down, the name that it once owned
stays, and so does the binding that took it over. -/
theorem bystanders_spared_beside_shared_name :
    ∃ waits ∈ stage.bindings, ∃ taker ∈ stage.bindings,
      (∃ run ∈ stage.pending, run.binding = waits.id) ∧
      Spares waits stage (stage.apply ⟨1⟩ again []).1 ∧
      Fields.get? (stage.apply ⟨1⟩ plain []).1.registry "fade" =
        Fields.get? stage.registry "fade" ∧
      Spares taker stage (stage.handle (.teardown ⟨1⟩)) ∧
      (Fields.get? (stage.handle (.teardown ⟨1⟩)).registry "fade").map Registry.Record.element =
        some ⟨2⟩ ∧
      Spares waits stage (stage.handle (.enteredView ⟨1⟩)) := by
  have waiting : ∃ binding ∈ stage.bindings, (∃ run ∈ stage.pending, run.binding = binding.id) ∧
      binding.label ≠ again.label stage.settings.directiveStart ∧
      binding.animation.triggers.visible = false := by
    decide +kernel
  have taking : ∃ binding ∈ stage.bindings, binding.element ≠ ⟨1⟩ := by decide +kernel
  have unnamed : ∀ animation ∈ (plain.compile (stage.data.scope []) ⟨1⟩
      (plain.label stage.settings.directiveStart)).result, animation.name ≠ some "fade" := by
    decide +kernel
  have taken : ((Fields.get? stage.registry "fade").filter
      fun record => record.element ≠ ⟨1⟩).map Registry.Record.element = some ⟨2⟩ := by
    decide +kernel
  have spared := bystanders_spared .standard [] (Helper.builtinSource 2) operations
  rw [show (new .standard [] (Helper.builtinSource 2)).performAll operations = stage from rfl]
    at spared
  obtain ⟨applies, tornDown, enters⟩ := spared
  obtain ⟨waits, here, pending, other, invisible⟩ := waiting
  obtain ⟨taker, there, elsewhere⟩ := taking
  refine ⟨waits, here, taker, there, pending, ((applies ⟨1⟩ again []).1 waits here (.inr other)).2,
    (applies ⟨1⟩ plain []).2 "fade" unnamed, ((tornDown ⟨1⟩).1 taker there elsewhere).2, ?_,
    (enters ⟨1⟩ waits here (.inr invisible)).2⟩
  rw [(tornDown ⟨1⟩).2 "fade"]
  exact taken

end Stage

end Choreography
