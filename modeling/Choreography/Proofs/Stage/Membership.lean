import Choreography.Proofs.Stage.Accounts
import Choreography.Proofs.Stage.Sound

/-!
# Who is on the stage

The history tells of every binding that it was bound, under a number of its own, and that it
was released once it is no longer in force (`performAll_enrolled`).

But for bindings that begin and end, nothing that happens on a stage matters to this
(`Steady`), so an invariant of this kind is checked for these alone
(`performAll_membership`).
-/

namespace Choreography

/-- Whether an event neither begins nor ends a binding or a subscription. -/
def Event.isSteady : Event → Bool
  | .bound .. => false
  | .released .. => false
  | .subscribed .. => false
  | .unsubscribed .. => false
  | _ => true

namespace Stage

/-! ## What begins and ends nothing -/

/-- A later stage on which no binding and no subscription has begun or ended. -/
structure Steady (before after : Stage) : Prop where
  bindings : ∃ change : Binding → Binding,
    (∀ binding, change binding =
      { binding with
        view := (change binding).view
        options := (change binding).options
        lastRun := (change binding).lastRun }) ∧
    after.bindings = before.bindings.map change
  subscribers : after.subscribers = before.subscribers
  listeners : after.listeners = before.listeners
  bindingCount : after.bindingCount = before.bindingCount
  subscriptionCount : after.subscriptionCount = before.subscriptionCount
  adds : Adds Event.isSteady before after

namespace Steady

variable {before after : Stage}

/-- What leaves bindings and subscriptions alone is steady. -/
theorem of_same (bindings : after.bindings = before.bindings)
    (subscribers : after.subscribers = before.subscribers)
    (listeners : after.listeners = before.listeners)
    (bindingCount : after.bindingCount = before.bindingCount)
    (subscriptionCount : after.subscriptionCount = before.subscriptionCount)
    (adds : Adds Event.isSteady before after) : Steady before after :=
  ⟨⟨fun binding => binding, fun _ => rfl, bindings.trans (List.map_id' _).symm⟩, subscribers,
    listeners, bindingCount, subscriptionCount, adds⟩

theorem trans {first second third : Stage} (early : Steady first second)
    (late : Steady second third) : Steady first third where
  bindings := by
    obtain ⟨change, keeps, changed⟩ := early.bindings
    obtain ⟨next, still, moved⟩ := late.bindings
    refine ⟨fun binding => next (change binding), ?_, ?_⟩
    · intro binding
      dsimp only
      rw [still (change binding), keeps binding]
    · rw [moved, changed, List.map_map]
      rfl
  subscribers := late.subscribers.trans early.subscribers
  listeners := late.listeners.trans early.listeners
  bindingCount := late.bindingCount.trans early.bindingCount
  subscriptionCount := late.subscriptionCount.trans early.subscriptionCount
  adds := early.adds.trans late.adds

/-- A binding in force was in force before. -/
theorem exists_old (steady : Steady before after) {binding : Binding}
    (here : binding ∈ after.bindings) : ∃ old ∈ before.bindings, old.id = binding.id ∧
      old.label = binding.label ∧ old.animation = binding.animation ∧
        old.subscriptions = binding.subscriptions := by
  obtain ⟨change, keeps, changed⟩ := steady.bindings
  rw [changed] at here
  obtain ⟨old, there, rfl⟩ := List.mem_map.mp here
  exact ⟨old, there, by rw [keeps], by rw [keeps], by rw [keeps], by rw [keeps]⟩

/-- A binding that was in force still is. -/
theorem exists_new (steady : Steady before after) {binding : Binding}
    (here : binding ∈ before.bindings) : ∃ current ∈ after.bindings,
      current.id = binding.id ∧ current.subscriptions = binding.subscriptions := by
  obtain ⟨change, keeps, changed⟩ := steady.bindings
  refine ⟨change binding, changed ▸ List.mem_map_of_mem here, ?_, ?_⟩ <;> rw [keeps]

end Steady

theorem Touches.steady {id : BindingId} {change : Binding → Binding}
    (touches : Touches id change) (binding : Binding) : change binding =
      { binding with
        view := (change binding).view
        options := (change binding).options
        lastRun := (change binding).lastRun } := by
  rw [touches.rest]

theorem Passes.steady {before after : Stage} (passes : Passes before after) :
    Steady before after := by
  refine .of_same passes.bindings passes.subscribers passes.listeners passes.bindingCount
    passes.subscriptionCount (passes.adds.mono ?_)
  intro event kind
  cases event <;> first | rfl | cases kind

theorem Plays.steady {run : RunId} {id : BindingId} {before after : Stage}
    (plays : Plays run id before after) : Steady before after := by
  obtain ⟨change, touches, -, changed⟩ := plays.bindings
  obtain ⟨events, kinds, added⟩ := plays.history
  have keeps := plays.keeps
  refine ⟨⟨change, touches.steady, changed⟩, keeps.subscribers, keeps.listeners,
    keeps.bindingCount, keeps.subscriptionCount, events, fun event here => ?_, added⟩
  have play := kinds event here
  cases event <;> first | rfl | cases play

theorem Dispatches.steady {run : RunId} {binding : Binding} {resolved : Fields Value}
    {before after : Stage} (dispatches : Dispatches run binding resolved before after) :
    Steady before after := by
  obtain ⟨change, touches, -, changed⟩ := dispatches.bindings
  have keeps := dispatches.keeps
  refine ⟨⟨change, touches.steady, changed⟩, keeps.subscribers, keeps.listeners,
    keeps.bindingCount, keeps.subscriptionCount, dispatches.adds ?_ ?_ rfl⟩
  · intro event notice
    cases event <;> first | rfl | cases notice
  · intro event play
    cases event <;> first | rfl | cases play

theorem advance_steady {stage : Stage} {binding : Binding}
    (found : stage.binding? binding.id = some binding) (run : RunId) (reason : RunReason)
    (outcome : Except ResolveError Resolution) :
    Steady stage (stage.advance run binding reason outcome).1 := by
  match outcome with
  | .ok (.ready resolved) => exact (dispatch_dispatches found run reason resolved).steady
  | .ok (.pending options) => exact .of_same rfl rfl rfl rfl rfl (Adds.refl _ stage)
  | .error error =>
    exact .of_same rfl rfl rfl rfl rfl ⟨[.reported _, .failed run binding.id error],
      by simp [Event.isSteady], rfl⟩

theorem start_steady (stage : Stage) (binding : Binding) (reason : RunReason) :
    Steady stage (stage.start binding reason) :=
  .of_same rfl rfl rfl rfl rfl (.single rfl rfl)

theorem polled_steady (stage : Stage) (waiting : PendingRun) :
    Steady stage (stage.polled waiting) :=
  .of_same rfl rfl rfl rfl rfl (Adds.refl _ stage)

theorem takeUp_steady (stage : Stage) : Steady stage stage.takeUp :=
  .of_same rfl rfl rfl rfl rfl (Adds.refl _ stage)

theorem schedule_steady (stage : Stage) (id : BindingId) (reason : RunReason) :
    Steady stage (stage.schedule id reason).1 := by
  refine schedule_cases (motive := Steady stage) stage id reason
    (.of_same rfl rfl rfl rfl rfl (Adds.refl _ stage)) ?_
  intro binding found _ outcome
  exact (start_steady stage binding reason).trans (advance_steady found _ reason outcome)

theorem lookAt_steady (stage : Stage) (binding : Binding) :
    Steady stage (stage.lookAt binding) := by
  have looks := lookAt_looks stage binding
  have changed : Steady stage (stage.update binding.id fun binding =>
      { binding with view := .entered }) := by
    refine ⟨⟨_, ?_, rfl⟩, rfl, rfl, rfl, rfl, Adds.refl _ stage⟩
    intro other
    split <;> rfl
  unfold lookAt
  dsimp only
  split
  · exact changed.trans (.of_same rfl rfl rfl rfl rfl (.single rfl rfl))
  · exact changed

theorem pollRun_steady (state : Stage × Nat) (waiting : PendingRun) :
    Steady state.1 (pollRun state waiting).1 := by
  refine pollRun_cases (motive := Steady state.1) state waiting
    (.of_same rfl rfl rfl rfl rfl (.single rfl rfl)) ?_
  intro binding found _ outcome
  exact (polled_steady state.1 waiting).trans (advance_steady found _ _ outcome)

/-- **Operations forget nothing**: what has happened stays on record. -/
theorem perform_subset (stage : Stage) (operation : Operation) :
    stage.history ⊆ (stage.perform operation).history := by
  let remembers (later : Stage) : Prop := stage.history ⊆ later.history
  have grows {before after : Stage} {kind : Event → Bool} (adds : Adds kind before after)
      (remembered : remembers before) : remembers after := List.Subset.trans remembered adds.subset
  have released (chosen : Binding → Bool) : remembers (stage.release chosen) :=
    (release_releases stage chosen).adds.subset
  cases operation with
  | apply element directive chain =>
    refine apply_induction (motive := remembers) (released _) ?_ ?_
    · exact fun before diagnostic => grows (report_passes before diagnostic).adds
    · intro before label animation _ remembered
      exact grows (schedule_steady _ _ .initial).adds
        (grows (bind_binds before label animation chain).adds remembered)
  | input input =>
    refine handle_induction (motive := remembers) (List.Subset.refl _) input released ?_ ?_ ?_
    · exact fun before binding =>
        grows ((lookAt_steady before binding).trans (schedule_steady _ _ .enteredView)).adds
    · exact fun id => (schedule_steady stage id .sourceChanged).adds.subset
    · exact fun before element remembered => List.subset_cons_of_subset _ remembered
  | tick =>
    refine tick_induction (motive := remembers) (List.Subset.refl _) ?_
    exact fun state waiting => grows (pollRun_steady state waiting).adds
  | _ => exact (perform_passes stage rfl).adds.subset

theorem performAll_subset (stage : Stage) (operations : List Operation) :
    stage.history ⊆ (stage.performAll operations).history := by
  induction operations generalizing stage with
  | nil => exact List.Subset.refl _
  | cons operation rest ih =>
    exact List.Subset.trans (perform_subset stage operation) (ih (stage.perform operation))

section

variable (invariant : Stage → Prop)
  (steady : ∀ before after, Steady before after → invariant before → invariant after)
  (released : ∀ stage chosen, Sound stage [] → invariant stage →
    invariant (stage.release chosen))
  (bound : ∀ stage label animation chain, invariant stage →
    invariant (stage.bind label animation chain).1)

include steady released bound

/-- What is kept by all that is steady, by releases and by bindings that begin, is kept by
every step. -/
theorem step_membership {told : Option BindingId} {before after : Stage}
    (step : Step told before after) (sound : Sound before []) (holds : invariant before) :
    invariant after := by
  cases step with
  | unbound passes => exact steady _ _ passes.steady holds
  | released chosen => exact released before chosen sound holds
  | installed label animation chain =>
    exact steady _ _ (schedule_steady _ _ _) (bound before label animation chain holds)
  | changed tells => exact steady _ _ (schedule_steady before _ _) holds
  | entered here responds =>
    rename_i binding
    rw [enter_eq]
    exact steady _ _ ((lookAt_steady before binding).trans (schedule_steady _ _ _)) holds
  | tornDown element gone =>
    exact steady before _ (.of_same rfl rfl rfl rfl rfl (.single rfl rfl)) holds

/-- And so it is by all operations. -/
theorem performAll_membership {stage : Stage} (sound : Sound stage []) (holds : invariant stage)
    (operations : List Operation) : invariant (stage.performAll operations) := by
  refine (performAll_invariant (fun stage queue => Sound stage queue ∧ invariant stage)
    (fun _ both => both.1.distinct) ?_ ?_ ?_ operations stage ⟨sound, holds⟩).2
  · intro stage both
    exact ⟨takeUp_sound both.1, steady _ _ (takeUp_steady stage) both.2⟩
  · intro stage waiting queue plays both
    exact ⟨pollRun_sound both.1 plays, steady _ _ (pollRun_steady (stage, plays) waiting) both.2⟩
  · intro told before after step both
    exact ⟨step_sound step both.1,
      step_membership invariant steady released bound step both.1 both.2⟩

end

/-! ## Bindings on record -/

/-- A stage whose history tells of all bindings: each was bound under the next number, and
either is in force or was released. -/
structure Enrolled (stage : Stage) : Prop where
  numbers : (gather Event.bound? stage.history).map Prod.fst = List.range' 1 stage.bindingCount
  bound : ∀ binding ∈ stage.bindings,
    (binding.id.number, binding.label, binding.animation) ∈ gather Event.bound? stage.history
  ended : ∀ entry ∈ gather Event.bound? stage.history,
    (∃ binding ∈ stage.bindings, binding.id.number = entry.1) ∨
      Event.released ⟨entry.1⟩ ∈ stage.history
  gone : ∀ id, Event.released id ∈ stage.history →
    id.number ≤ stage.bindingCount ∧ ∀ binding ∈ stage.bindings, binding.id ≠ id

theorem new_enrolled (settings : Settings) (data : Store) (source : HelperSupply) :
    Enrolled (new settings data source) :=
  ⟨rfl, nofun, nofun, nofun⟩

/-- What is read of a binding's beginning is its event. -/
theorem mem_gather_bound {history : List Event} {id : BindingId} {label : String}
    {animation : Animation} : (id.number, label, animation) ∈ gather Event.bound? history ↔
      Event.bound id label animation ∈ history := by
  rw [mem_gather]
  refine ⟨?_, fun here => ⟨_, here, rfl⟩⟩
  rintro ⟨event, here, read⟩
  obtain ⟨number⟩ := id
  cases event with
  | bound other shown given =>
    obtain ⟨counted⟩ := other
    simp only [Event.bound?, Option.some.injEq, Prod.mk.injEq] at read
    obtain ⟨rfl, rfl, rfl⟩ := read
    exact here
  | _ => cases read

/-- A number was given to one animation only. -/
theorem Enrolled.unique {stage : Stage} (enrolled : Enrolled stage) {number : Nat}
    {first second : String × Animation}
    (here : (number, first) ∈ gather Event.bound? stage.history)
    (there : (number, second) ∈ gather Event.bound? stage.history) : first = second := by
  have distinct : ((gather Event.bound? stage.history).map Prod.fst).Nodup := by
    rw [enrolled.numbers]
    exact List.nodup_range'
  exact congrArg Prod.snd (List.inj_on_of_nodup_map distinct here there rfl)

/-- What was bound under an id is one animation. -/
theorem Enrolled.unique_animation {stage : Stage} (enrolled : Enrolled stage) {id : BindingId}
    {label shown : String} {animation other : Animation}
    (bound : .bound id label animation ∈ stage.history)
    (here : .bound id shown other ∈ stage.history) : other = animation :=
  congrArg Prod.snd (enrolled.unique (mem_gather_bound.mpr here) (mem_gather_bound.mpr bound))

/-- A binding in force has a number that was given out. -/
theorem Enrolled.number_le {stage : Stage} (enrolled : Enrolled stage) {binding : Binding}
    (here : binding ∈ stage.bindings) : binding.id.number ≤ stage.bindingCount := by
  have given : binding.id.number ∈ (gather Event.bound? stage.history).map Prod.fst :=
    List.mem_map_of_mem (enrolled.bound binding here)
  rw [enrolled.numbers, List.mem_range'_1] at given
  omega

theorem Steady.enrolled {before after : Stage} (steady : Steady before after)
    (enrolled : Enrolled before) : Enrolled after := by
  obtain ⟨events, kinds, added⟩ := steady.adds
  have same : gather Event.bound? after.history = gather Event.bound? before.history := by
    rw [added]
    refine gather_append_of_silent fun event here => ?_
    have kind := kinds event here
    cases event <;> first | rfl | cases kind
  have released : ∀ id, Event.released id ∈ after.history → Event.released id ∈ before.history := by
    intro id here
    rw [added] at here
    rcases List.mem_append.mp here with here | here
    · cases kinds _ here
    · exact here
  exact {
    numbers := by
      rw [same, steady.bindingCount]
      exact enrolled.numbers
    bound := by
      intro binding here
      obtain ⟨old, there, id, label, animation, -⟩ := steady.exists_old here
      rw [same, ← id, ← label, ← animation]
      exact enrolled.bound old there
    ended := by
      intro entry here
      rw [same] at here
      rcases enrolled.ended entry here with ⟨binding, there, number⟩ | gone
      · obtain ⟨current, present, id, -⟩ := steady.exists_new there
        exact .inl ⟨current, present, id ▸ number⟩
      · rw [added]
        exact .inr (List.mem_append_right _ gone)
    gone := by
      intro id here
      obtain ⟨given, absent⟩ := enrolled.gone id (released id here)
      rw [steady.bindingCount]
      refine ⟨given, fun binding present same => ?_⟩
      obtain ⟨old, there, id, -⟩ := steady.exists_old present
      exact absent old there (id.trans same) }

/-- The bindings that a release ends are those that are chosen. -/
theorem mem_release_released {stage : Stage} {chosen : Binding → Bool} {id : BindingId} :
    Event.released id ∈ (stage.release chosen).history ↔
      (∃ binding ∈ stage.bindings, chosen binding = true ∧ binding.id = id) ∨
        Event.released id ∈ stage.history := by
  have farewells (binding : Binding) : Event.released id ∈ farewell stage.settings binding ↔
      binding.id = id := by
    simpa [mem_farewell] using eq_comm
  rw [release_eq]
  simp [farewells, and_assoc]

theorem release_enrolled {stage : Stage} (chosen : Binding → Bool)
    (enrolled : Enrolled stage) : Enrolled (stage.release chosen) := by
  have releases := release_releases stage chosen
  have accounts := release_accounts stage chosen
  have same : gather Event.bound? (stage.release chosen).history =
      gather Event.bound? stage.history := accounts.bound.trans (List.append_nil _)
  exact {
    numbers := by
      rw [same, releases.bindingCount]
      exact enrolled.numbers
    bound := by
      intro binding here
      rw [same]
      exact enrolled.bound binding (mem_release_bindings.mp here).1
    ended := by
      intro entry here
      rw [same] at here
      rw [mem_release_released]
      rcases enrolled.ended entry here with ⟨binding, there, number⟩ | gone
      · by_cases going : ∃ other ∈ stage.bindings, chosen other = true ∧ other.id = binding.id
        · obtain ⟨other, present, isChosen, id⟩ := going
          exact .inr (.inl ⟨other, present, isChosen, by rw [id, ← number]⟩)
        · refine .inl ⟨binding, mem_release_bindings.mpr ⟨there, ?_⟩, number⟩
          exact fun other present isChosen id => going ⟨other, present, isChosen, id⟩
      · exact .inr (.inr gone)
    gone := by
      intro id here
      rw [releases.bindingCount]
      rcases mem_release_released.mp here with ⟨binding, there, isChosen, rfl⟩ | gone
      · refine ⟨enrolled.number_le there, fun other still same => ?_⟩
        exact (mem_release_bindings.mp still).2 binding there isChosen same.symm
      · obtain ⟨given, absent⟩ := enrolled.gone id gone
        exact ⟨given, fun binding there => absent binding (mem_release_bindings.mp there).1⟩ }

theorem bind_enrolled {stage : Stage} (enrolled : Enrolled stage) (label : String)
    (animation : Animation) (chain : Chain) :
    Enrolled (stage.bind label animation chain).1 := by
  have binds := bind_binds stage label animation chain
  have accounts := bind_accounts stage label animation chain
  obtain ⟨subscriptions, bindings⟩ := binds.bindings
  obtain ⟨events, beginnings, added⟩ := binds.adds
  have released : ∀ id, Event.released id ∈ (stage.bind label animation chain).1.history ↔
      Event.released id ∈ stage.history := by
    intro id
    rw [added, List.mem_append]
    exact ⟨fun here => here.resolve_left fun new => (nomatch beginnings _ new), Or.inr⟩
  have own : (stage.bindingCount + 1, label, animation) ∈
      gather Event.bound? (stage.bind label animation chain).1.history := by
    rw [accounts.bound]
    exact List.mem_append_right _ (List.mem_singleton.mpr rfl)
  exact {
    numbers := by
      rw [accounts.bound, List.map_append, enrolled.numbers, map_fst_numbered, binds.bindingCount,
        Nat.add_comm stage.bindingCount 1]
      exact (List.range'_append_1 ..).trans (by rw [Nat.add_comm]; rfl)
    bound := by
      intro binding here
      rw [bindings] at here
      rcases List.mem_append.mp here with here | here
      · rw [accounts.bound]
        exact List.mem_append_left _ (enrolled.bound binding here)
      · rw [List.mem_singleton.mp here]
        simpa only [binds.id_eq] using own
    ended := by
      intro entry here
      rw [accounts.bound] at here
      rw [released, bindings]
      rcases List.mem_append.mp here with here | here
      · rcases enrolled.ended entry here with ⟨binding, there, number⟩ | gone
        · exact .inl ⟨binding, List.mem_append_left _ there, number⟩
        · exact .inr gone
      · refine .inl ⟨_, List.mem_append_right _ (List.mem_singleton.mpr rfl), ?_⟩
        rw [List.mem_singleton.mp here]
        exact congrArg BindingId.number binds.id_eq
    gone := by
      intro id here
      obtain ⟨given, absent⟩ := enrolled.gone id ((released id).mp here)
      rw [binds.bindingCount, bindings]
      refine ⟨Nat.le_succ_of_le given, fun binding there same => ?_⟩
      rcases List.mem_append.mp there with there | there
      · exact absent binding there same
      · -- the number is a new one, so it is not that of a binding that was released
        rw [List.mem_singleton.mp there, binds.id_eq] at same
        exact Nat.not_succ_le_self _ (same ▸ given) }

theorem step_enrolled {told : Option BindingId} {before after : Stage}
    (step : Step told before after) (sound : Sound before []) (enrolled : Enrolled before) :
    Enrolled after :=
  step_membership Enrolled (fun _ _ => Steady.enrolled)
    (fun _ chosen _ enrolled => release_enrolled chosen enrolled)
    (fun _ label animation chain enrolled => bind_enrolled enrolled label animation chain)
    step sound enrolled

/-- **Operations keep all bindings on record.** -/
theorem performAll_enrolled {stage : Stage} (sound : Sound stage [])
    (enrolled : Enrolled stage) (operations : List Operation) :
    Enrolled (stage.performAll operations) :=
  performAll_membership Enrolled (fun _ _ => Steady.enrolled)
    (fun _ chosen _ enrolled => release_enrolled chosen enrolled)
    (fun _ label animation chain enrolled => bind_enrolled enrolled label animation chain)
    sound enrolled operations

end Stage

end Choreography
