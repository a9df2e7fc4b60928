import Choreography.Helper.Catalogue
import Choreography.Proofs.Stage.Subscriptions

/-!
# Departures

A binding that was released is never heard of again: nothing but its end follows its release
(`performAll_endsLast`), no later operation is about it (`performAll_sparesBinding`), and the
host watches nothing for it (`performAll_departed`).

An element that was torn down has no bindings and owns no names, so until a directive is
applied to it, nothing is asked of an engine for it (`performAll_away`) but what a host asks
directly.

**Nothing runs after a release** (`nothing_after_release`) puts the two together.
-/

namespace Choreography

namespace Event

/-- The binding that an event is about, if it is about one. -/
def about? : Event → Option BindingId
  | .animated (.run _ binding _) .. => some binding
  | .linkedScroll binding .. => some binding
  | .observed binding _ => some binding
  | .unobserved binding _ => some binding
  | .subscribed binding .. => some binding
  | .unsubscribed binding _ => some binding
  | .bound binding .. => some binding
  | .released binding => some binding
  | .scheduled _ binding _ => some binding
  | .dispatched _ binding .. => some binding
  | .failed _ binding _ => some binding
  | .dropped _ binding => some binding
  | _ => none

/-- Whether an event is not about a binding. -/
def sparesBinding (id : BindingId) (event : Event) : Bool := event.about? ≠ some id

/-- Whether an event is no release of a binding. -/
def isNoRelease : Event → Bool
  | .released _ => false
  | _ => true

/-- Whether an event binds no animation to an element and asks nothing of an engine for it,
but for what a host asks directly. -/
def sparesElement (element : ElementId) : Event → Bool
  | .animated cause _ other _ => other ≠ element || cause = .direct
  | .sequenced _ steps _ => steps.all fun step => step.element ≠ element
  | .observed _ other => other ≠ element
  | .bound _ _ animation => animation.element ≠ element
  | _ => true

theorem sparesBinding_of_about? {id own : BindingId} {event : Event}
    (about : event.about? = some own) (different : own ≠ id) : event.sparesBinding id = true := by
  simpa [sparesBinding, about] using different

theorem sparesBinding_of_isUnbound (id : BindingId) {event : Event}
    (unbound : event.isUnbound = true) : event.sparesBinding id = true := by
  cases event with
  | animated cause => cases cause <;> first | rfl | cases unbound
  | _ => first | rfl | cases unbound

theorem sparesBinding_of_isNotice (id : BindingId) {event : Event}
    (notice : event.isNotice = true) : event.sparesBinding id = true := by
  cases event <;> first | rfl | cases notice

theorem about?_of_isPlayOf {run : RunId} {own : BindingId} {element? : Option ElementId}
    {event : Event} (play : event.isPlayOf run own element? = true) :
    event.about? = some own := by
  cases event with
  | animated cause =>
    cases cause with
    | run number binding name =>
      simp only [isPlayOf, Bool.and_eq_true, decide_eq_true_eq] at play
      rw [about?, play.2.1]
    | _ => cases play
  | linkedScroll binding =>
    simp only [isPlayOf, decide_eq_true_eq] at play
    rw [about?, play]
  | _ => cases play

theorem isNoRelease_of_isUnbound {event : Event} (unbound : event.isUnbound = true) :
    event.isNoRelease = true := by
  cases event <;> first | rfl | cases unbound

theorem isNoRelease_of_isBeginning {event : Event} (beginning : event.isBeginning = true) :
    event.isNoRelease = true := by
  cases event <;> first | rfl | cases beginning

theorem isNoRelease_of_isSteady {event : Event} (steady : event.isSteady = true) :
    event.isNoRelease = true := by
  cases event <;> first | rfl | cases steady

theorem sparesElement_of_isPlayOf {run : RunId} {own : BindingId} {element other : ElementId}
    {event : Event} (play : event.isPlayOf run own (some other) = true)
    (different : other ≠ element) : event.sparesElement element = true := by
  cases event with
  | animated cause =>
    cases cause with
    | run number binding name =>
      simp only [isPlayOf, Bool.and_eq_true, decide_eq_true_eq, Option.some.injEq] at play
      rw [sparesElement, ← play.2.2]
      simp [different]
    | _ => cases play
  | linkedScroll => rfl
  | _ => cases play

theorem sparesElement_of_isNotice (element : ElementId) {event : Event}
    (notice : event.isNotice = true) : event.sparesElement element = true := by
  cases event <;> first | rfl | cases notice

theorem sparesElement_of_isEnding (element : ElementId) {event : Event}
    (ending : event.isEnding = true) : event.sparesElement element = true := by
  cases event <;> first | rfl | cases ending

end Event

namespace Stage

theorem about?_of_mem_farewell {settings : Settings} {binding : Binding} {event : Event}
    (here : event ∈ farewell settings binding) : event.about? = some binding.id := by
  rcases mem_farewell.mp here with ⟨-, rfl⟩ | ⟨subscription, -, rfl⟩ | rfl <;> rfl

theorem about?_of_mem_welcome {id : BindingId} {label : String} {animation : Animation}
    {fresh : List (SubscriptionId × String)} {event : Event}
    (here : event ∈ welcome id label animation fresh) : event.about? = some id := by
  rcases mem_welcome.mp here with ⟨-, rfl⟩ | ⟨entry, -, rfl⟩ | rfl <;> rfl

/-! ## Bindings that were released -/

section

variable {stage : Stage} {id : BindingId}

theorem advance_sparesBinding {binding : Binding}
    (found : stage.binding? binding.id = some binding) (different : binding.id ≠ id)
    (run : RunId) (reason : RunReason) (outcome : Except ResolveError Resolution) :
    Adds (Event.sparesBinding id) stage (stage.advance run binding reason outcome).1 := by
  have own {event : Event} (about : event.about? = some binding.id) :
      event.sparesBinding id = true := Event.sparesBinding_of_about? about different
  match outcome with
  | .ok (.ready resolved) =>
    exact (dispatch_dispatches found run reason resolved).adds
      (fun _ => Event.sparesBinding_of_isNotice id)
      (fun _ play => own (Event.about?_of_isPlayOf play)) (own rfl)
  | .ok (.pending options) => exact Adds.refl _ stage
  | .error error =>
    refine ⟨[.reported _, .failed run binding.id error], ?_, rfl⟩
    intro event here
    rcases List.mem_pair.mp here with rfl | rfl
    · rfl
    · exact own rfl

variable (absent : ∀ binding ∈ stage.bindings, binding.id ≠ id)

include absent

theorem schedule_sparesBinding (other : BindingId) (reason : RunReason) :
    Adds (Event.sparesBinding id) stage (stage.schedule other reason).1 := by
  refine schedule_cases (motive := Adds (Event.sparesBinding id) stage) stage other reason
    (Adds.refl _ stage) ?_
  intro binding found _ outcome
  have different := absent binding (mem_bindings_of_binding? found).1
  have started : Adds (Event.sparesBinding id) stage (stage.start binding reason) :=
    .single (Event.sparesBinding_of_about? rfl different) rfl
  exact started.trans (advance_sparesBinding found different _ reason outcome)

omit absent in
/-- A release is about the bindings that are chosen. -/
theorem release_sparesBinding (chosen : Binding → Bool)
    (spared : ∀ binding ∈ stage.bindings, chosen binding = true → binding.id ≠ id) :
    Adds (Event.sparesBinding id) stage (stage.release chosen) := by
  refine release_adds stage chosen ?_ ?_
  · intro binding here isChosen event among
    exact Event.sparesBinding_of_about? (about?_of_mem_farewell among)
      (spared binding here isChosen)
  · intro binding here isChosen run
    exact Event.sparesBinding_of_about? rfl (spared binding here isChosen)

omit absent in
theorem bind_sparesBinding (different : id ≠ ⟨stage.bindingCount + 1⟩) (label : String)
    (animation : Animation) (chain : Chain) :
    Adds (Event.sparesBinding id) stage (stage.bind label animation chain).1 := by
  rw [bind_eq]
  refine ⟨_, fun event here => ?_, rfl⟩
  exact Event.sparesBinding_of_about? (about?_of_mem_welcome here) different.symm

theorem lookAt_sparesBinding {binding : Binding} (here : binding ∈ stage.bindings) :
    Adds (Event.sparesBinding id) stage (stage.lookAt binding) := by
  unfold lookAt
  dsimp only
  split
  · exact .single (Event.sparesBinding_of_about? rfl (absent binding here)) rfl
  · exact Adds.refl _ stage

end

theorem pollRun_sparesBinding {stage : Stage} {waiting : PendingRun} {queue : List PendingRun}
    (sound : Sound stage (waiting :: queue)) {id : BindingId}
    (absent : ∀ binding ∈ stage.bindings, binding.id ≠ id) (plays : Nat) :
    Adds (Event.sparesBinding id) stage (pollRun (stage, plays) waiting).1 := by
  -- a run that waits has its binding in force, so it is none of the one that is gone
  obtain ⟨binding, found, -⟩ := sound.binding?_head
  rw [pollRun_eq found]
  exact advance_sparesBinding (poll_held sound found).found
    (absent binding (mem_bindings_of_binding? found).1) _ _ _

/-- A step is about bindings in force and the one that begins, so not about one that was in
force before, or is still to begin. -/
theorem step_sparesBinding {told : Option BindingId} {before after : Stage}
    (step : Step told before after) {id : BindingId}
    (absent : ∀ binding ∈ before.bindings, binding.id ≠ id)
    (other : id.number ≤ before.bindingCount ∨ after.bindingCount < id.number) :
    Adds (Event.sparesBinding id) before after := by
  cases step with
  | unbound passes => exact passes.adds.mono fun _ => Event.sparesBinding_of_isUnbound id
  | released chosen =>
    exact release_sparesBinding chosen fun binding here _ => absent binding here
  | installed label animation chain =>
    have binds := bind_binds before label animation chain
    have different : id ≠ ⟨before.bindingCount + 1⟩ := by
      rintro rfl
      rw [(schedule_steady _ _ _).bindingCount, binds.bindingCount] at other
      exact other.elim (Nat.not_succ_le_self _) (Nat.lt_irrefl _)
    have without : ∀ binding ∈ (before.bind label animation chain).1.bindings,
        binding.id ≠ id := by
      obtain ⟨subscriptions, bindings⟩ := binds.bindings
      rw [bindings]
      intro binding here
      rcases List.mem_append.mp here with here | here
      · exact absent binding here
      · rw [List.mem_singleton.mp here, binds.id_eq]
        exact different.symm
    exact (bind_sparesBinding different label animation chain).trans
      (schedule_sparesBinding without _ .initial)
  | changed tells => exact schedule_sparesBinding absent _ .sourceChanged
  | entered here responds =>
    rename_i binding
    have without : ∀ other ∈ (before.lookAt binding).bindings, other.id ≠ id := by
      intro other there
      obtain ⟨old, among, same, -⟩ := (lookAt_steady before binding).exists_old there
      exact same ▸ absent old among
    rw [enter_eq]
    exact (lookAt_sparesBinding absent here).trans
      (schedule_sparesBinding without _ .enteredView)
  | tornDown element gone => exact .single rfl rfl

theorem step_sparesReleased {told : Option BindingId} {before after : Stage}
    (step : Step told before after) (enrolled : Enrolled before) {id : BindingId}
    (gone : Event.released id ∈ before.history) :
    Adds (Event.sparesBinding id) before after := by
  obtain ⟨given, absent⟩ := enrolled.gone id gone
  exact step_sparesBinding step absent (.inl given)

/-- **A binding that was released is never heard of again.** -/
theorem performAll_sparesBinding {stage : Stage} (sound : Sound stage [])
    (enrolled : Enrolled stage) {id : BindingId} (gone : Event.released id ∈ stage.history)
    (operations : List Operation) :
    Adds (Event.sparesBinding id) stage (stage.performAll operations) := by
  have stays {later : Stage} (adds : Adds (Event.sparesBinding id) stage later) :
      Event.released id ∈ later.history := by
    obtain ⟨events, -, added⟩ := adds
    rw [added]
    exact List.mem_append_right _ gone
  refine (performAll_invariant (fun later queue =>
      Sound later queue ∧ Enrolled later ∧ Adds (Event.sparesBinding id) stage later)
    (fun _ all => all.1.distinct) ?_ ?_ ?_ operations stage
    ⟨sound, enrolled, Adds.refl _ stage⟩).2.2
  -- as long as nothing was added about the binding, its release is still on record
  · rintro later ⟨sound, enrolled, adds⟩
    exact ⟨takeUp_sound sound, (takeUp_steady later).enrolled enrolled, adds⟩
  · rintro later waiting queue plays ⟨sound, enrolled, adds⟩
    have absent := (enrolled.gone id (stays adds)).2
    exact ⟨pollRun_sound sound plays, (pollRun_steady (later, plays) waiting).enrolled enrolled,
      adds.trans (pollRun_sparesBinding sound absent plays)⟩
  · rintro told before after step ⟨sound, enrolled, adds⟩
    exact ⟨step_sound step sound, step_enrolled step sound enrolled,
      adds.trans (step_sparesReleased step enrolled (stays adds))⟩

/-! ## What follows a release -/

/-- A stage in whose history all that follows the release of a binding and is about it is part
of its end. -/
def EndsLast (stage : Stage) : Prop :=
  ∀ id late early, stage.history = late ++ Event.released id :: early →
    ∀ event ∈ late, event.about? = some id → event.isEnding = true

theorem new_endsLast (settings : Settings) (data : Store) (source : HelperSupply) :
    EndsLast (new settings data source) := by
  intro id late early split
  cases late <;> cases split

/-- Events of one kind, of the end of bindings or none of them a release, keep what was
released silent. -/
theorem EndsLast.of_adds {before after : Stage} (ends : EndsLast before)
    (spares : ∀ id, Event.released id ∈ before.history →
      Adds (Event.sparesBinding id) before after)
    (kinds : Adds Event.isEnding before after ∨ Adds Event.isNoRelease before after) :
    EndsLast after := by
  obtain ⟨since, kind, added⟩ : ∃ since : List Event,
      ((∀ event ∈ since, event.isEnding = true) ∨ ∀ event ∈ since, event.isNoRelease = true) ∧
      after.history = since ++ before.history := by
    rcases kinds with ⟨since, kind, added⟩ | ⟨since, kind, added⟩
    · exact ⟨since, .inl kind, added⟩
    · exact ⟨since, .inr kind, added⟩
  intro id late early split event here about
  have silent (gone : Event.released id ∈ before.history) : event ∉ since := by
    obtain ⟨events, kinds, same⟩ := spares id gone
    rw [List.append_cancel_right (added.symm.trans same)]
    intro there
    simpa [Event.sparesBinding, about] using kinds event there
  rw [added] at split
  rcases List.append_eq_append_iff.mp split with ⟨middle, rfl, rest⟩ | ⟨middle, rfl, rest⟩
  · -- the binding was released before
    rcases List.mem_append.mp here with here | here
    · exact absurd here (silent (rest ▸ List.mem_append_right _ List.mem_cons_self))
    · exact ends id middle early rest event here about
  · cases middle with
    | nil =>
      have gone : Event.released id ∈ before.history := by
        rw [← List.nil_append before.history, ← rest]
        exact List.mem_cons_self
      rw [List.append_nil] at silent
      exact absurd here (silent gone)
    | cons first others =>
      -- the binding is released among the new events, so all of these are of ends
      obtain ⟨rfl, -⟩ := List.cons.inj rest
      rcases kind with ending | noRelease
      · exact ending event (List.mem_append_left _ here)
      · cases noRelease _ (List.mem_append_right _ List.mem_cons_self)

theorem step_endsLast {told : Option BindingId} {before after : Stage}
    (step : Step told before after) (enrolled : Enrolled before) (ends : EndsLast before) :
    EndsLast after := by
  refine ends.of_adds (fun id gone => step_sparesReleased step enrolled gone) ?_
  have schedules (stage : Stage) (id : BindingId) (reason : RunReason) :
      Adds Event.isNoRelease stage (stage.schedule id reason).1 :=
    (schedule_steady stage id reason).adds.mono fun _ => Event.isNoRelease_of_isSteady
  cases step with
  | unbound passes => exact .inr (passes.adds.mono fun _ => Event.isNoRelease_of_isUnbound)
  | released chosen => exact .inl (release_releases before chosen).adds
  | installed label animation chain =>
    have begins := (bind_binds before label animation chain).adds
    exact .inr ((begins.mono fun _ => Event.isNoRelease_of_isBeginning).trans
      (schedules _ _ .initial))
  | changed tells => exact .inr (schedules before _ .sourceChanged)
  | entered here responds =>
    rename_i binding
    have looks := (lookAt_steady before binding).adds
    exact .inr ((looks.mono fun _ => Event.isNoRelease_of_isSteady).trans
      (schedules _ _ .enteredView))
  | tornDown element gone => exact .inr (.single rfl rfl)

/-- **Nothing but its end follows the release of a binding.** -/
theorem performAll_endsLast {stage : Stage} (sound : Sound stage [])
    (enrolled : Enrolled stage) (ends : EndsLast stage) (operations : List Operation) :
    EndsLast (stage.performAll operations) := by
  refine (performAll_invariant (fun stage queue =>
      Sound stage queue ∧ Enrolled stage ∧ EndsLast stage)
    (fun _ all => all.1.distinct) ?_ ?_ ?_ operations stage ⟨sound, enrolled, ends⟩).2.2
  · rintro stage ⟨sound, enrolled, ends⟩
    exact ⟨takeUp_sound sound, (takeUp_steady stage).enrolled enrolled, ends⟩
  · rintro stage waiting queue plays ⟨sound, enrolled, ends⟩
    have steady := pollRun_steady (stage, plays) waiting
    exact ⟨pollRun_sound sound plays, steady.enrolled enrolled,
      ends.of_adds
        (fun id gone => pollRun_sparesBinding sound (enrolled.gone id gone).2 plays)
        (.inr (steady.adds.mono fun _ => Event.isNoRelease_of_isSteady))⟩
  · rintro told before after step ⟨sound, enrolled, ends⟩
    exact ⟨step_sound step sound, step_enrolled step sound enrolled,
      step_endsLast step enrolled ends⟩

/-! ## Bindings that are gone -/

/-- From one stage to a later one a binding is gone: nothing happens about it, and none of its
subscriptions is held. -/
structure Departed (id : BindingId) (before after : Stage) : Prop where
  released : Event.released id ∈ before.history
  spares : Adds (Event.sparesBinding id) before after
  unsubscribed : ∀ root subscription, Event.subscribed id root subscription ∈ after.history →
    Event.unsubscribed id subscription ∈ before.history ∧
      ∀ listener ∈ after.listeners, listener.1 ≠ subscription

/-- **A binding that was released is gone for good.** -/
theorem performAll_departed {stage : Stage} (sound : Sound stage []) (enrolled : Enrolled stage)
    (subscribed : Subscribed stage) {id : BindingId} (gone : Event.released id ∈ stage.history)
    (operations : List Operation) : Departed id stage (stage.performAll operations) := by
  have spares := performAll_sparesBinding sound enrolled gone operations
  refine ⟨gone, spares, fun root subscription made => ?_⟩
  obtain ⟨events, kinds, added⟩ := spares
  have before : Event.subscribed id root subscription ∈ stage.history := by
    rw [added] at made
    refine (List.mem_append.mp made).resolve_left fun new => ?_
    simpa [Event.sparesBinding, Event.about?] using kinds _ new
  have still : Event.released id ∈ (stage.performAll operations).history := by
    rw [added]
    exact List.mem_append_right _ gone
  have absent := ((performAll_enrolled sound enrolled operations).gone id still).2
  exact ⟨(subscribed.unsubscribed before (enrolled.gone id gone).2).1,
    ((performAll_subscribed sound subscribed operations).unsubscribed made absent).2⟩

/-! ## Elements that were torn down -/

/-- Since an earlier stage an element has been left alone: it has no bindings, owns no names,
and nothing was asked of an engine for it. -/
structure Away (element : ElementId) (since stage : Stage) : Prop where
  bindings : element ∉ stage.bindings.map Binding.element
  owners : element ∉ stage.registry.owners
  spares : Adds (Event.sparesElement element) since stage

section

variable {element : ElementId} {since stage after : Stage}

/-- What adds no binding and no owner and spares the element leaves it alone. -/
theorem Away.go (away : Away element since stage)
    (bindings : after.bindings.map Binding.element ⊆ stage.bindings.map Binding.element)
    (owners : after.registry.owners ⊆ stage.registry.owners)
    (spares : Adds (Event.sparesElement element) stage after) : Away element since after :=
  ⟨fun here => away.bindings (bindings here), fun here => away.owners (owners here),
    away.spares.trans spares⟩

/-- So does what leaves bindings and names as they are. -/
theorem Away.keep (away : Away element since stage) (bindings : after.bindings = stage.bindings)
    (registry : after.registry = stage.registry)
    (spares : Adds (Event.sparesElement element) stage after) : Away element since after :=
  away.go (by rw [bindings]; exact List.Subset.refl _)
    (by rw [registry]; exact List.Subset.refl _) spares

theorem Away.element_ne (away : Away element since stage) {binding : Binding}
    (here : binding ∈ stage.bindings) : binding.element ≠ element := by
  rintro rfl
  exact away.bindings (List.mem_map_of_mem here)

/-- What is bound to the element was bound before. -/
theorem Away.mem_bound (away : Away element since stage) {id : BindingId} {label : String}
    {animation : Animation} (own : animation.element = element)
    (bound : Event.bound id label animation ∈ stage.history) :
    Event.bound id label animation ∈ since.history := by
  obtain ⟨events, kinds, added⟩ := away.spares
  rw [added] at bound
  refine (List.mem_append.mp bound).resolve_left fun new => ?_
  simpa [Event.sparesElement, own] using kinds _ new

/-- All that was ever bound to the element was released. -/
theorem Away.released (away : Away element since stage) (enrolled : Enrolled stage)
    {id : BindingId} {label : String} {animation : Animation}
    (bound : Event.bound id label animation ∈ stage.history)
    (own : animation.element = element) : Event.released id ∈ stage.history := by
  have entry := mem_gather_bound.mpr bound
  refine (enrolled.ended _ entry).resolve_left ?_
  rintro ⟨binding, here, number⟩
  have known := enrolled.bound binding here
  rw [number] at known
  have same : binding.animation = animation := congrArg Prod.snd (enrolled.unique known entry)
  exact away.element_ne here ((congrArg Animation.element same).trans own)

theorem Touches.map_element {id : BindingId} {change : Binding → Binding}
    (touches : Touches id change) (bindings : List Binding) :
    (bindings.map change).map Binding.element = bindings.map Binding.element := by
  rw [List.map_map]
  exact List.map_congr_left fun binding _ => touches.element_eq binding

theorem advance_away (away : Away element since stage) {binding : Binding}
    (found : stage.binding? binding.id = some binding) (run : RunId) (reason : RunReason)
    (outcome : Except ResolveError Resolution) :
    Away element since (stage.advance run binding reason outcome).1 := by
  have different := away.element_ne (mem_bindings_of_binding? found).1
  match outcome with
  | .ok (.ready resolved) =>
    -- a dispatch registers its name to the element of its own binding only
    have dispatches := dispatch_dispatches found run reason resolved
    obtain ⟨change, touches, -, changed⟩ := dispatches.bindings
    refine ⟨?_, fun here => ?_, away.spares.trans (dispatches.adds
      (fun _ => Event.sparesElement_of_isNotice element)
      (fun _ play => Event.sparesElement_of_isPlayOf play different) rfl)⟩
    · show element ∉ (stage.dispatch run binding.id reason resolved).1.bindings.map _
      rw [changed, touches.map_element]
      exact away.bindings
    · rcases List.mem_cons.mp (dispatches.owners here) with own | here
      · exact different own.symm
      · exact away.owners here
  | .ok (.pending options) => exact away.keep rfl rfl (Adds.refl _ stage)
  | .error error =>
    exact away.keep rfl rfl ⟨[.reported _, .failed run binding.id error],
      by simp [Event.sparesElement], rfl⟩

theorem schedule_away (away : Away element since stage) (id : BindingId) (reason : RunReason) :
    Away element since (stage.schedule id reason).1 := by
  refine schedule_cases (motive := Away element since) stage id reason away ?_
  intro binding found _ outcome
  have started : Away element since (stage.start binding reason) :=
    away.keep rfl rfl (.single rfl rfl)
  exact advance_away started found _ reason outcome

theorem pollRun_away {state : Stage × Nat} (away : Away element since state.1)
    (waiting : PendingRun) : Away element since (pollRun state waiting).1 := by
  refine pollRun_cases (motive := Away element since) state waiting
    (away.keep rfl rfl (.single rfl rfl)) ?_
  intro binding found _ outcome
  have polled : Away element since (state.1.polled waiting) :=
    away.keep rfl rfl (Adds.refl _ state.1)
  exact advance_away polled found _ _ outcome

theorem release_away (away : Away element since stage) (chosen : Binding → Bool) :
    Away element since (stage.release chosen) := by
  have releases := release_releases stage chosen
  refine away.go ?_ ?_ (releases.adds.mono fun _ => Event.sparesElement_of_isEnding element)
  · rw [releases.bindings]
    exact List.map_subset _ (List.filter_sublist).subset
  · rw [releases.registry]
    exact List.Subset.refl _

theorem bind_away (away : Away element since stage) (label : String) {animation : Animation}
    (different : animation.element ≠ element) (chain : Chain) :
    Away element since (stage.bind label animation chain).1 := by
  have spares : Adds (Event.sparesElement element) stage
      (stage.bind label animation chain).1 := by
    rw [bind_eq]
    refine ⟨_, fun event here => ?_, rfl⟩
    rcases mem_welcome.mp here with ⟨-, rfl⟩ | ⟨entry, -, rfl⟩ | rfl
    · simpa [Event.sparesElement] using different
    · rfl
    · simpa [Event.sparesElement] using different
  have binds := bind_binds stage label animation chain
  obtain ⟨subscriptions, bindings⟩ := binds.bindings
  refine ⟨?_, binds.registry ▸ away.owners, away.spares.trans spares⟩
  rw [bindings, List.map_append, List.mem_append]
  rintro (here | here)
  · exact away.bindings here
  · exact different (List.mem_singleton.mp here).symm

theorem enter_away (away : Away element since stage) (binding : Binding) :
    Away element since (stage.enter binding) := by
  have looks := lookAt_looks stage binding
  have same : (stage.lookAt binding).bindings.map Binding.element =
      stage.bindings.map Binding.element := by
    rw [looks.bindings, List.map_map]
    refine List.map_congr_left fun other _ => ?_
    dsimp only [Function.comp_apply]
    split <;> rfl
  have looked : Away element since (stage.lookAt binding) :=
    ⟨same ▸ away.bindings, looks.registry ▸ away.owners, away.spares.trans
      (looks.adds.mono fun _ => Event.sparesElement_of_isEnding element)⟩
  rw [enter_eq]
  exact schedule_away looked _ .enteredView

/-! ## Operations on other elements -/

theorem apply_away (away : Away element since stage) {other : ElementId}
    (different : other ≠ element) (directive : Directive) (chain : Chain) :
    Away element since (stage.apply other directive chain).1 := by
  refine apply_induction (release_away away _) (fun _ _ away => away.keep rfl rfl (.single rfl rfl))
    fun before label animation own away => ?_
  have others : animation.element ≠ element := own ▸ different
  exact schedule_away (bind_away away label others chain) _ .initial

theorem lookup_away (away : Away element since stage) (name : String) :
    Away element since (stage.lookup name).1 := by
  unfold lookup
  split
  · exact away.keep rfl rfl (.single rfl rfl)
  · rename_i record found
    have different : record.element ≠ element := by
      rintro rfl
      exact away.owners (List.mem_map.mpr ⟨_, Fields.mem_of_get? found, rfl⟩)
    exact away.go (List.Subset.refl _) (Registry.owners_setLastRun_subset _ name _)
      (.single (by simpa [Event.sparesElement] using different) rfl)

theorem sequence_away (away : Away element since stage) (names : List String)
    (options : Fields Value) : Away element since (stage.sequence names options).1 := by
  have others : ∀ step ∈ TimelineStep.ofNames stage.registry names, step.element ≠ element := by
    rintro step here rfl
    obtain ⟨name, -, found⟩ := List.mem_filterMap.mp here
    obtain ⟨record, registered, rfl⟩ := Option.map_eq_some_iff.mp found
    exact away.owners (List.mem_map.mpr ⟨_, Fields.mem_of_get? registered, rfl⟩)
  exact sequence_induction away names options
    (fun _ _ _ away => away.keep rfl rfl (.single rfl rfl))
    fun _ _ away => away.keep rfl rfl (.single (by simpa [Event.sparesElement] using others) rfl)

theorem handle_away (away : Away element since stage) (input : Input) :
    Away element since (stage.handle input) := by
  refine handle_induction away input (release_away away)
    (fun _ binding away => enter_away away binding)
    (fun id => schedule_away away id .sourceChanged) fun _ other away => ?_
  refine away.go (List.Subset.refl _) ?_ (.single rfl rfl)
  exact List.map_subset _ (List.filter_sublist).subset

/-- An operation leaves an element alone unless it applies a directive to it. -/
theorem perform_away (away : Away element since stage) {operation : Operation}
    (elsewhere : ∀ directive chain, operation ≠ .apply element directive chain) :
    Away element since (stage.perform operation) := by
  cases operation with
  | apply other directive chain =>
    refine apply_away away ?_ directive chain
    rintro rfl
    exact elsewhere directive chain rfl
  | input input => exact handle_away away input
  | tick =>
    have begun : Away element since stage.takeUp := away.keep rfl rfl (Adds.refl _ stage)
    exact tick_induction begun fun _ waiting away => pollRun_away away waiting
  | lookup name => exact lookup_away away name
  | sequence names options => exact sequence_away away names options
  | animate other options =>
    exact away.keep rfl rfl (.single (by simp [Event.sparesElement]) rfl)
  | followScroll link => exact away.keep rfl rfl (.single rfl rfl)
  | write frame name value => exact away.keep rfl rfl (Adds.refl _ stage)
  | erase frame name => exact away.keep rfl rfl (Adds.refl _ stage)
  | offer source => exact away.keep rfl rfl (Adds.refl _ stage)
  | deliver name delivery =>
    show Away element since ((stage.deliver? name delivery).getD stage)
    cases delivered : stage.deliver? name delivery with
    | none => exact away
    | some later =>
      obtain ⟨loader, -, rfl⟩ := Option.map_eq_some_iff.mp delivered
      exact away.keep rfl rfl (Adds.refl _ stage)
  | clearDiagnostics => exact away.keep rfl rfl (Adds.refl _ stage)

/-- **An element is left alone until a directive is applied to it.** -/
theorem performAll_away (away : Away element since stage) (operations : List Operation)
    (elsewhere : ∀ operation ∈ operations, ∀ directive chain,
      operation ≠ .apply element directive chain) :
    Away element since (stage.performAll operations) :=
  List.foldlRecOn operations perform away fun _ away operation here =>
    perform_away away (elsewhere operation here)

end

/-! ## What a teardown and a directive release -/

/-- A teardown leaves its element alone. -/
theorem teardown_away (stage : Stage) (element : ElementId) :
    Away element (stage.handle (.teardown element)) (stage.handle (.teardown element)) := by
  refine ⟨fun here => ?_, fun here => ?_, Adds.refl _ _⟩
  · obtain ⟨binding, among, own⟩ := List.mem_map.mp here
    obtain ⟨there, kept⟩ := mem_release_bindings.mp among
    exact kept binding there (by simp [own]) rfl
  · obtain ⟨entry, among, own⟩ := List.mem_map.mp here
    simpa [own] using (List.mem_filter.mp among).2

/-- A teardown releases the bindings of its element. -/
theorem teardown_releases {stage : Stage} {binding : Binding} (here : binding ∈ stage.bindings) :
    Event.released binding.id ∈ (stage.handle (.teardown binding.element)).history :=
  List.mem_cons_of_mem _ (mem_release_released.mpr (.inl ⟨binding, here, by simp, rfl⟩))

/-- A directive that is applied again releases the bindings that it has made. -/
theorem apply_releases {stage : Stage} (sound : Sound stage []) (enrolled : Enrolled stage)
    {binding : Binding} (here : binding ∈ stage.bindings) {directive : Directive}
    (again : directive.label stage.settings.directiveStart = binding.label) (chain : Chain) :
    Event.released binding.id ∈
      (stage.apply binding.element directive chain).1.history := by
  let chosen : Binding → Bool := fun other =>
    other.element = binding.element &&
      other.label = directive.label stage.settings.directiveStart
  let released := stage.release chosen
  have gone : Event.released binding.id ∈ released.history :=
    mem_release_released.mpr (.inl ⟨binding, here, by simp [chosen, again], rfl⟩)
  have steps : Steps none released (stage.apply binding.element directive chain).1 :=
    (absorb_steps _ released).trans (foldl_install_steps _ chain _ (_, []))
  refine (steps_invariant (fun later => Sound later [] ∧ Enrolled later ∧
    Event.released binding.id ∈ later.history) ?_ steps
    ⟨release_sound sound chosen, release_enrolled chosen enrolled, gone⟩).2.2
  rintro before after step ⟨sound, enrolled, gone⟩
  -- the steps after the release only add to the history
  obtain ⟨events, -, added⟩ := step_sparesReleased step enrolled gone
  exact ⟨step_sound step sound, step_enrolled step sound enrolled,
    added ▸ List.mem_append_right _ gone⟩

/-! ## Nothing runs after a release -/

/-- **Nothing runs after a release.**  After any operations on a new stage, and whatever is
done later:

* a teardown releases all bindings of its element, and a directive that is applied those of
  its label on its element;
* all that follows the release of a binding and is about it is part of its end, so no engine
  plays it, links it to a scroll position or observes its element for it any more;
* once the release is done, nothing at all happens about the binding, and its subscriptions
  have all ended;
* from a teardown on, as long as no directive is applied to the element, no engine is asked to
  play it, but by a host directly, to observe it or to make it a step of a timeline; and all
  bindings that it ever had were released by then. -/
theorem nothing_after_release (settings : Settings) (data : Store) (source : HelperSupply)
    (earlier later : List Operation) :
    let stage := (new settings data source).performAll earlier
    (∀ binding ∈ stage.bindings,
      Event.released binding.id ∈
        (stage.perform (.input (.teardown binding.element))).history ∧
      ∀ directive chain, directive.label stage.settings.directiveStart = binding.label →
        Event.released binding.id ∈
          (stage.perform (.apply binding.element directive chain)).history) ∧
    EndsLast (stage.performAll later) ∧
    (∀ id, Event.released id ∈ stage.history → Departed id stage (stage.performAll later)) ∧
    ∀ element, (∀ operation ∈ later, ∀ directive chain,
        operation ≠ .apply element directive chain) →
      let torn := stage.perform (.input (.teardown element))
      Adds (Event.sparesElement element) torn (torn.performAll later) ∧
      ∀ id label animation, Event.bound id label animation ∈ (torn.performAll later).history →
        animation.element = element → Departed id torn (torn.performAll later) := by
  intro stage
  have begun := new_sound settings data source
  have sound : Sound stage [] := performAll_sound begun earlier
  have enrolled : Enrolled stage :=
    performAll_enrolled begun (new_enrolled settings data source) earlier
  have subscribed : Subscribed stage :=
    performAll_subscribed begun (new_subscribed settings data source) earlier
  refine ⟨fun binding here => ⟨teardown_releases here, fun directive chain again =>
    apply_releases sound enrolled here again chain⟩,
    performAll_endsLast sound enrolled
      (performAll_endsLast begun (new_enrolled settings data source)
        (new_endsLast settings data source) earlier) later,
    fun id gone => performAll_departed sound enrolled subscribed gone later, ?_⟩
  intro element elsewhere torn
  have begins : Away element torn torn := teardown_away stage element
  have away : Away element torn (torn.performAll later) :=
    performAll_away begins later elsewhere
  have tornSound : Sound torn [] := performAll_sound sound [.input (.teardown element)]
  have tornEnrolled : Enrolled torn :=
    performAll_enrolled sound enrolled [.input (.teardown element)]
  have tornSubscribed : Subscribed torn :=
    performAll_subscribed sound subscribed [.input (.teardown element)]
  refine ⟨away.spares, fun id label animation bound own => ?_⟩
  have gone := begins.released tornEnrolled (away.mem_bound own bound) own
  exact performAll_departed tornSound tornEnrolled tornSubscribed gone later

namespace SharedName

/-- A stage whose helpers arrive with the first poll of any run. -/
def begun : Stage :=
  .new .standard [[("k", .number (Number.ofNat 1))]] (Helper.builtinSource 1)

/-- Two elements have animations of one name, which wait for a helper. -/
def earlier : List Operation :=
  [.apply ⟨1⟩ ⟨none, [], "spin: {x: spring(k)}"⟩ [0],
    .apply ⟨2⟩ ⟨none, [], "spin: {x: spring(k)}"⟩ [0]]

/-- The helper arrives, data changes, the element comes into view, and the name is played
again. -/
def later : List Operation :=
  [.tick, .input (.sourceChanged ⟨1⟩), .input (.enteredView ⟨1⟩), .lookup "spin",
    .sequence ["spin"] []]

/-- The element that an event plays. -/
def played? : Event → Option ElementId
  | .animated _ _ element _ => some element
  | _ => none

end SharedName

open SharedName in
/-- Of two elements whose animations wait for a helper, the one that was torn down is never
played, and the other is. -/
theorem nothing_after_release_beside_shared_name :
    let stage := begun.performAll earlier
    let torn := stage.perform (.input (.teardown ⟨1⟩))
    let after := torn.performAll later
    (∃ waiting ∈ stage.pending, waiting.binding = ⟨1⟩) ∧
      Event.released ⟨1⟩ ∈ torn.history ∧ Departed ⟨1⟩ torn after ∧
      Adds (Event.sparesElement ⟨1⟩) torn after ∧
      gather played? after.history = [⟨2⟩] := by
  intro stage torn after
  have waits : ∃ waiting ∈ stage.pending, waiting.binding = ⟨1⟩ := by decide +kernel
  have played : gather played? after.history = [⟨2⟩] := by decide +kernel
  have bound : ∃ entry ∈ gather Event.bound? after.history,
      entry.1 = 1 ∧ entry.2.2.element = ⟨1⟩ := by decide +kernel
  obtain ⟨⟨number, label, animation⟩, here, rfl, own⟩ := bound
  obtain ⟨-, -, -, torn⟩ := nothing_after_release .standard
    [[("k", .number (Number.ofNat 1))]] (Helper.builtinSource 1) earlier later
  obtain ⟨spares, departs⟩ := torn ⟨1⟩ (by simp [later])
  have departed := departs ⟨1⟩ label animation (mem_gather_bound.mp here) own
  exact ⟨waits, departed.released, departed, spares, played⟩

end Stage

end Choreography
