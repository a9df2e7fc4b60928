import Choreography.Proofs.Stage.Attribution
import Choreography.Proofs.Stage.Departures
import Choreography.Proofs.Stage.Moments

/-!
# Animations that wait for the view

An animation with no trigger but the view is armed when it is bound.  Until its element enters
the view its runs refresh what it will show, and what its name stands for, but **no engine plays
it** (`armed_refreshed_not_played`), however late the runs are dispatched and whatever happens
to other bindings of the element and of the name.

`Quiet` is the invariant: nothing was played for the binding, it still waits, and none of its
runs that wait for helpers is about an entry.
-/

namespace Choreography

/-- Whether an event is no play on behalf of a binding. -/
def Event.isNoPlayFor (id : BindingId) (event : Event) : Bool := !event.playsFor id

namespace Stage

/-! ## Bindings that are still to begin -/

/-- A stage in whose history nothing is about a binding that is still to begin. -/
def Unheard (stage : Stage) : Prop :=
  ∀ id : BindingId, stage.bindingCount < id.number →
    ∀ event ∈ stage.history, event.sparesBinding id = true

/-- What only adds events about other bindings keeps those that are still to begin unheard. -/
theorem Unheard.of_adds {before after : Stage} (unheard : Unheard before)
    (counted : before.bindingCount ≤ after.bindingCount)
    (spares : ∀ id : BindingId, after.bindingCount < id.number →
      Adds (Event.sparesBinding id) before after) : Unheard after := by
  intro id unborn event here
  obtain ⟨events, kinds, added⟩ := spares id unborn
  rw [added] at here
  rcases List.mem_append.mp here with here | here
  · exact kinds event here
  · exact unheard id (Nat.lt_of_le_of_lt counted unborn) event here

/-- Bindings in force have begun. -/
theorem Sound.absent {stage : Stage} {queue : List PendingRun} (sound : Sound stage queue)
    {id : BindingId} (unborn : stage.bindingCount < id.number) :
    ∀ binding ∈ stage.bindings, binding.id ≠ id := by
  rintro binding here rfl
  exact Nat.not_le_of_lt unborn (sound.numbered binding here)

/-- The count of bindings never goes down. -/
theorem step_bindingCount_le {told : Option BindingId} {before after : Stage}
    (step : Step told before after) : before.bindingCount ≤ after.bindingCount := by
  cases step with
  | unbound passes => exact Nat.le_of_eq passes.bindingCount.symm
  | released chosen => exact Nat.le_of_eq (release_releases before chosen).bindingCount.symm
  | installed label animation chain =>
    rw [(schedule_steady _ _ _).bindingCount, (bind_binds before label animation chain).bindingCount]
    exact Nat.le_succ _
  | changed tells => exact Nat.le_of_eq (schedule_steady before _ _).bindingCount.symm
  | entered here responds =>
    rename_i binding
    have scheduled := (schedule_steady (before.lookAt binding) binding.id .enteredView).bindingCount
    exact Nat.le_of_eq (scheduled.trans (lookAt_looks before binding).bindingCount).symm
  | tornDown element gone => exact Nat.le_refl _

/-- **Nothing is ever about a binding that is still to begin.** -/
theorem performAll_unheard {stage : Stage} (sound : Sound stage []) (unheard : Unheard stage)
    (operations : List Operation) : Unheard (stage.performAll operations) := by
  refine (performAll_invariant (fun stage queue => Sound stage queue ∧ Unheard stage)
    (fun _ both => both.1.distinct) ?_ ?_ ?_ operations stage ⟨sound, unheard⟩).2
  · rintro stage ⟨sound, unheard⟩
    exact ⟨takeUp_sound sound, unheard⟩
  · rintro stage waiting queue plays ⟨sound, unheard⟩
    have counted := (pollRun_steady (stage, plays) waiting).bindingCount
    refine ⟨pollRun_sound sound plays, unheard.of_adds (Nat.le_of_eq counted.symm) ?_⟩
    intro id unborn
    exact pollRun_sparesBinding sound (sound.absent (counted ▸ unborn)) plays
  · rintro told before after step ⟨sound, unheard⟩
    have counted := step_bindingCount_le step
    refine ⟨step_sound step sound, unheard.of_adds counted fun id unborn => ?_⟩
    exact step_sparesBinding step (sound.absent (Nat.lt_of_le_of_lt counted unborn)) (.inr unborn)

/-! ## Quiet bindings -/

/-- A binding that may still have to begin, or has gone, was never played, and while it is in
force it waits for nothing but the view, and no run of it that is still to be polled is about an
entry. -/
structure Quiet (id : BindingId) (stage : Stage) (queue : List PendingRun) : Prop where
  silent : playsFor id stage.history = 0
  waits : ∀ binding ∈ stage.bindings, binding.id = id →
    binding.view = .waiting ∧ binding.animation.triggers = ⟨true, false⟩
  early : ∀ waiting ∈ stage.pending ++ queue, waiting.binding = id →
    waiting.reason ≠ .enteredView

section

variable {id : BindingId} {stage after : Stage} {queue : List PendingRun}

/-- A binding stays quiet where no run comes to wait, no binding begins or enters the view, and
nothing is played for it. -/
theorem Quiet.of_subset (quiet : Quiet id stage queue)
    (silent : playsFor id after.history = playsFor id stage.history)
    (bindings : ∀ binding ∈ after.bindings, binding.id = id → ∃ old ∈ stage.bindings,
      old.id = id ∧ old.view = binding.view ∧ old.animation = binding.animation)
    (pending : after.pending ⊆ stage.pending) : Quiet id after queue := by
  refine ⟨silent.trans quiet.silent, ?_, ?_⟩
  · intro binding here own
    obtain ⟨old, there, same, view, animation⟩ := bindings binding here own
    rw [← view, ← animation]
    exact quiet.waits old there same
  · intro waiting here
    refine quiet.early waiting (List.mem_append.mpr ?_)
    exact (List.mem_append.mp here).imp_left fun among => pending among

/-- Idle events play for no binding. -/
theorem Adds.unplayed {kind : Event → Bool} (adds : Adds kind stage after)
    (idle : ∀ event, kind event = true → event.isIdle = true) :
    Adds (Event.isNoPlayFor id) stage after :=
  adds.mono fun event fits => by
    rw [Event.isNoPlayFor, Event.playsFor_of_isIdle (idle event fits), Bool.not_false]

theorem Adds.playsFor_eq (adds : Adds (Event.isNoPlayFor id) stage after) :
    playsFor id after.history = playsFor id stage.history := by
  obtain ⟨events, silent, added⟩ := adds
  have none : events.countP (Event.playsFor id) = 0 :=
    List.countP_eq_zero.mpr fun event here => by simpa [Event.isNoPlayFor] using silent event here
  rw [added, playsFor, List.countP_append, none, Nat.zero_add]
  rfl

/-- The same where bindings and runs stay as they are. -/
theorem Quiet.of_same (quiet : Quiet id stage queue)
    (bindings : after.bindings = stage.bindings) (pending : after.pending = stage.pending)
    (adds : Adds (Event.isNoPlayFor id) stage after) : Quiet id after queue := by
  refine quiet.of_subset adds.playsFor_eq ?_ (by rw [pending]; exact List.Subset.refl _)
  rw [bindings]
  exact fun binding here own => ⟨binding, here, own, rfl, rfl⟩

theorem Passes.quiet (passes : Passes stage after) (quiet : Quiet id stage queue) :
    Quiet id after queue :=
  quiet.of_same passes.bindings passes.pending
    (passes.adds.unplayed fun _ => Event.isIdle_of_isUnbound)

theorem release_quiet (quiet : Quiet id stage queue) (chosen : Binding → Bool) :
    Quiet id (stage.release chosen) queue := by
  have releases := release_releases stage chosen
  refine quiet.of_subset (releases.adds.unplayed fun _ => Event.isIdle_of_isEnding).playsFor_eq
    ?_ ?_
  · rw [releases.bindings]
    exact fun binding here own => ⟨binding, (List.mem_filter.mp here).1, own, rfl, rfl⟩
  · rw [releases.pending]
    exact List.filter_subset_self _

/-- A binding begins quietly, if nothing was heard of it before. -/
theorem bind_quiet (quiet : Quiet id stage queue) (label : String) (animation : Animation)
    (chain : Chain)
    (armed : (stage.bind label animation chain).2 = id → animation.triggers = ⟨true, false⟩) :
    Quiet id (stage.bind label animation chain).1 queue := by
  have binds := bind_binds stage label animation chain
  obtain ⟨subscriptions, bindings⟩ := binds.bindings
  exact {
    silent := by
      rw [(binds.adds.unplayed fun _ => Event.isIdle_of_isBeginning).playsFor_eq]
      exact quiet.silent
    waits := by
      rw [bindings]
      intro binding here own
      rcases List.mem_append.mp here with here | here
      · exact quiet.waits binding here own
      · rw [List.mem_singleton.mp here] at own ⊢
        have triggers := armed own
        dsimp only
        rw [triggers]
        exact ⟨rfl, rfl⟩
    early := by
      rw [binds.pending]
      exact quiet.early }

/-- A run that is not about an entry plays nothing for a binding that waits. -/
theorem Dispatches.quiet {run : RunId} {binding : Binding} {resolved : Fields Value}
    (found : stage.binding? binding.id = some binding) {reason : RunReason}
    (early : binding.id = id → reason ≠ .enteredView) (quiet : Quiet id stage queue) :
    Quiet id (stage.dispatch run binding.id reason resolved).1 queue := by
  have dispatches := dispatch_dispatches found run reason resolved
  obtain ⟨change, touches, -, changed⟩ := dispatches.bindings
  refine quiet.of_subset ?_ ?_ ?_
  · by_cases own : binding.id = id
    · obtain ⟨view, triggers⟩ := quiet.waits binding (mem_bindings_of_binding? found).1 own
      have unseen : visibleRuns reason binding.view = false := by
        rw [view]
        cases reason <;> first | rfl | exact (early own rfl).elim
      rw [← own, playsFor_dispatch found, snd_dispatch_of_visible found triggers, unseen]
      rfl
    · exact dispatches.playsFor_other own
  · rw [changed]
    intro other here own
    obtain ⟨old, there, rfl⟩ := List.mem_map.mp here
    exact ⟨old, there, (touches.id_eq old).symm.trans own, (touches.view_eq old).symm,
      (touches.animation_eq old).symm⟩
  · rw [dispatches.keeps.pending]
    exact List.Subset.refl _

theorem advance_quiet {binding : Binding} (found : stage.binding? binding.id = some binding)
    (quiet : Quiet id stage queue) (run : RunId) {reason : RunReason}
    (early : binding.id = id → reason ≠ .enteredView)
    (outcome : Except ResolveError Resolution) :
    Quiet id (stage.advance run binding reason outcome).1 queue := by
  match outcome with
  | .ok (.ready resolved) => exact Dispatches.quiet found early quiet
  | .ok (.pending options) =>
    refine ⟨quiet.silent, quiet.waits, fun waiting here own => ?_⟩
    rcases List.mem_append.mp here with here | here
    · rcases List.mem_append.mp here with here | here
      · exact quiet.early waiting (List.mem_append_left _ here) own
      · rw [List.mem_singleton.mp here] at own ⊢
        exact early own
    · exact quiet.early waiting (List.mem_append_right _ here) own
  | .error error =>
    exact quiet.of_same rfl rfl ⟨[.reported (failure binding.animation.label error),
      .failed run binding.id error], by simp [Event.isNoPlayFor, Event.playsFor], rfl⟩

theorem schedule_quiet (quiet : Quiet id stage queue) (own : BindingId) {reason : RunReason}
    (early : own = id → reason ≠ .enteredView) :
    Quiet id (stage.schedule own reason).1 queue := by
  refine schedule_cases (motive := fun after => Quiet id after queue) stage own reason quiet ?_
  rintro binding found rfl outcome
  exact advance_quiet found (quiet.of_same rfl rfl (.single rfl rfl)) _ early outcome

theorem pollRun_quiet {waiting : PendingRun} (quiet : Quiet id stage (waiting :: queue))
    (plays : Nat) : Quiet id (pollRun (stage, plays) waiting).1 queue := by
  have early := quiet.early waiting (List.mem_append_right _ List.mem_cons_self)
  have rest : Quiet id stage queue := ⟨quiet.silent, quiet.waits, fun other here =>
    quiet.early other (((List.sublist_cons_self waiting queue).append_left _).subset here)⟩
  refine pollRun_cases (motive := fun after => Quiet id after queue) (stage, plays) waiting
    (rest.of_same rfl rfl (.single rfl rfl)) ?_
  intro binding found own outcome
  exact advance_quiet found (rest.of_same rfl rfl (Adds.refl _ stage)) _
    (fun same => early (own.symm.trans same)) outcome

theorem tick_quiet (quiet : Quiet id stage []) : Quiet id stage.tick.1 [] := by
  refine foldl_pollRun_invariant (Quiet id)
    (fun stage waiting queue plays quiet => pollRun_quiet quiet plays) stage.pending
    (stage.takeUp, 0) ⟨quiet.silent, quiet.waits, fun waiting here => ?_⟩
  exact quiet.early waiting (by simpa [takeUp] using here)

/-- An entry of another binding's element is none of the binding's own. -/
theorem enter_quiet (quiet : Quiet id stage queue) {binding : Binding}
    (different : binding.id ≠ id) : Quiet id (stage.enter binding) queue := by
  have looks := lookAt_looks stage binding
  rw [enter_eq]
  refine schedule_quiet (quiet.of_subset ?_ ?_ ?_) binding.id fun own => (different own).elim
  · exact (looks.adds.unplayed fun _ => Event.isIdle_of_isEnding).playsFor_eq
  · rw [looks.bindings]
    intro other here own
    obtain ⟨old, there, rfl⟩ := List.mem_map.mp here
    by_cases entering : old.id = binding.id
    · rw [if_pos entering] at own
      exact (different (entering.symm.trans own)).elim
    · rw [if_neg entering] at own ⊢
      exact ⟨old, there, own, rfl, rfl⟩
  · rw [looks.pending]
    exact List.Subset.refl _

/-! ## Operations -/

/-- Whether an operation is an entry into view of the element of a binding. -/
def Enters (stage : Stage) (id : BindingId) (operation : Operation) : Prop :=
  ∃ binding ∈ stage.bindings, binding.id = id ∧
    operation = .input (.enteredView binding.element)

/-- An application keeps a binding quiet, and so it begins if the application installs it. -/
theorem apply_quiet (quiet : Quiet id stage []) (element : ElementId) (directive : Directive)
    (chain : Chain)
    (armed : ∀ label animation,
      .bound id label animation ∈ (stage.apply element directive chain).1.history →
        animation.triggers = ⟨true, false⟩) :
    Quiet id (stage.apply element directive chain).1 [] := by
  refine apply_induction (motive := fun later => (∀ label animation,
      .bound id label animation ∈ later.history → animation.triggers = ⟨true, false⟩) →
    Quiet id later []) ?_ ?_ ?_ armed
  · exact fun _ => release_quiet quiet _
  · intro before diagnostic holds armed
    have passes := report_passes before diagnostic
    exact passes.quiet (holds fun label animation here =>
      armed label animation (passes.adds.subset here))
  · intro before label animation _ holds armed
    have binds := bind_binds before label animation chain
    have scheduled := (schedule_steady (before.bind label animation chain).1
      (before.bind label animation chain).2 .initial).adds
    have bound : Event.bound (before.bind label animation chain).2 label animation ∈
        (before.bind label animation chain).1.history := by
      rw [bind_eq]
      exact List.mem_append_left _ (mem_welcome.mpr (.inr (.inr rfl)))
    refine schedule_quiet (bind_quiet (holds ?_) label animation chain ?_) _ fun _ => nofun
    · exact fun label animation here =>
        armed label animation (scheduled.subset (binds.adds.subset here))
    · rintro rfl
      exact armed label animation (scheduled.subset bound)

/-- **Only an entry of its element ends the quiet of an armed binding.** -/
theorem perform_quiet (quiet : Quiet id stage []) {operation : Operation}
    (armed : ∀ label animation, .bound id label animation ∈ (stage.perform operation).history →
      animation.triggers = ⟨true, false⟩)
    (unseen : ¬ stage.Enters id operation) : Quiet id (stage.perform operation) [] := by
  cases operation with
  | apply element directive chain => exact apply_quiet quiet element directive chain armed
  | input input =>
    cases input with
    | sourceChanged subscription =>
      show Quiet id (stage.handle (.sourceChanged subscription)) []
      unfold handle
      dsimp only
      split
      · exact schedule_quiet quiet _ fun _ => nofun
      · exact quiet
    | enteredView element =>
      refine List.foldlRecOn (motive := fun later => Quiet id later []) _ enter quiet ?_
      intro later quiet binding here
      obtain ⟨there, chosen⟩ := List.mem_filter.mp here
      have own : binding.element = element :=
        of_decide_eq_true (Bool.and_eq_true_iff.mp chosen).1
      exact enter_quiet quiet fun same => unseen ⟨binding, there, same, by rw [own]⟩
    | teardown element =>
      exact (release_quiet quiet fun binding => binding.element = element).of_same rfl rfl
        (.single rfl rfl)
  | tick => exact tick_quiet quiet
  | _ => exact (perform_passes stage rfl).quiet quiet

/-- An armed binding stays quiet until its element enters the view. -/
theorem performAll_quiet (sound : Sound stage []) (enrolled : Enrolled stage) {label : String}
    {animation : Animation} (bound : .bound id label animation ∈ stage.history)
    (armed : animation.triggers = ⟨true, false⟩) (quiet : Quiet id stage [])
    {operations : List Operation} (unseen : .input (.enteredView animation.element) ∉ operations) :
    Quiet id (stage.performAll operations) [] := by
  induction operations generalizing stage with
  | nil => exact quiet
  | cons operation rest ih =>
    obtain ⟨other, others⟩ := not_or.mp (List.mem_cons.not.mp unseen)
    have later : Enrolled (stage.perform operation) :=
      performAll_enrolled sound enrolled [operation]
    have still := perform_subset stage operation bound
    refine ih (performAll_sound sound [operation]) later still (perform_quiet quiet ?_ ?_) others
    · intro shown animation here
      rw [later.unique_animation still here]
      exact armed
    · rintro ⟨binding, here, rfl, entry⟩
      have own := enrolled.unique_animation bound (mem_gather_bound.mp (enrolled.bound binding here))
      rw [Binding.element, own] at entry
      exact other entry.symm

/-- A binding that is still to begin is quiet. -/
theorem Unheard.quiet (unheard : Unheard stage) (sound : Sound stage [])
    (unborn : stage.bindingCount < id.number) : Quiet id stage [] := by
  have absent := sound.absent unborn
  refine ⟨?_, fun binding here own => (absent binding here own).elim, ?_⟩
  · refine List.countP_eq_zero.mpr fun event here plays => ?_
    have spares := unheard id unborn event here
    cases event with
    | animated cause =>
      cases cause with
      | run number binding name =>
        simp [Event.playsFor] at plays
        simp [Event.sparesBinding, Event.about?, plays] at spares
      | _ => cases plays
    | _ => cases plays
  · intro waiting here own
    obtain ⟨binding, there, waits⟩ := sound.served waiting here
    exact (absent binding there (waits.id_eq.trans own)).elim

/-- What was not bound before, but is later, was still to begin. -/
theorem Enrolled.unborn (enrolled : Enrolled stage) (later : Enrolled after)
    (grown : stage.history ⊆ after.history) {label : String} {animation : Animation}
    (unbound : .bound id label animation ∉ stage.history)
    (bound : .bound id label animation ∈ after.history) : stage.bindingCount < id.number := by
  have own := mem_gather_bound.mpr bound
  have number : id.number ∈ List.range' 1 after.bindingCount :=
    later.numbers ▸ List.mem_map_of_mem own
  by_contra given
  have before : id.number ∈ List.range' 1 stage.bindingCount := by
    rw [List.mem_range'_1] at number ⊢
    omega
  rw [← enrolled.numbers] at before
  obtain ⟨⟨_, shown, other⟩, here, rfl⟩ := List.mem_map.mp before
  have old : Event.bound id shown other ∈ stage.history := mem_gather_bound.mp here
  cases later.unique own (mem_gather_bound.mpr (grown old))
  exact unbound old

end

/-! ## Refreshed, and not played -/

/-- **An armed animation is refreshed but not played early.**  Let an operation on a stage bind
an animation that has no trigger but the view, and let its element enter the view in none of the
operations that follow.  Then no engine has played it on behalf of this binding.  And every run
of the binding that was dispatched bears the name and the element of the animation, and after
its dispatch there was a moment at which the binding, and the name if there is one, held what it
resolved, less what is about scrolling. -/
theorem armed_refreshed_not_played (settings : Settings) (data : Store) (source : HelperSupply)
    (earlier : List Operation) (operation : Operation) (later : List Operation) {id : BindingId}
    {label : String} {animation : Animation} :
    let before := (new settings data source).performAll earlier
    let stage := before.performAll (operation :: later)
    .bound id label animation ∉ before.history →
    .bound id label animation ∈ (before.perform operation).history →
    animation.triggers = ⟨true, false⟩ →
    .input (.enteredView animation.element) ∉ later →
    playsFor id stage.history = 0 ∧
    ∀ run name element resolved, .dispatched run id name element resolved ∈ stage.history →
      name = animation.name ∧ element = animation.element ∧
      ∃ moment ∈ before.momentsAll (operation :: later),
        Refreshed moment run id name element resolved := by
  intro before stage unbound bound armed unseen
  have begun := new_sound settings data source
  have sound : Sound before [] := performAll_sound begun earlier
  have enrolled : Enrolled before :=
    performAll_enrolled begun (new_enrolled settings data source) earlier
  have unheard : Unheard before := performAll_unheard begun nofun earlier
  let during := before.perform operation
  have duringSound : Sound during [] := performAll_sound sound [operation]
  have duringEnrolled : Enrolled during := performAll_enrolled sound enrolled [operation]
  have unborn : before.bindingCount < id.number :=
    enrolled.unborn duringEnrolled (perform_subset before operation) unbound bound
  have quiet : Quiet id during [] := by
    refine perform_quiet (unheard.quiet sound unborn) ?_ ?_
    · intro shown other here
      rw [duringEnrolled.unique_animation bound here]
      exact armed
    · rintro ⟨binding, here, own, -⟩
      exact sound.absent unborn binding here own
  refine ⟨(performAll_quiet duringSound duringEnrolled bound armed quiet unseen).silent, ?_⟩
  intro run name element resolved recorded
  have stageEnrolled : Enrolled stage := performAll_enrolled duringSound duringEnrolled later
  have still : .bound id label animation ∈ stage.history := performAll_subset during later bound
  have attributed : Attributed stage :=
    performAll_attributed sound enrolled (performAll_attributed begun
      (new_enrolled settings data source) (new_attributed settings data source) earlier) _
  obtain ⟨shown, other, here, rfl, rfl⟩ := attributed _ recorded id name element rfl
  obtain rfl := stageEnrolled.unique_animation still here
  refine ⟨rfl, rfl, (dispatched_refreshed recorded).resolve_left fun past => ?_⟩
  simpa [Event.sparesBinding, Event.about?] using unheard id unborn _ past

namespace TakenName

/-- A stage whose helpers arrive with the first poll of any run. -/
def begun : Stage :=
  .new .standard [[("k", .number (Number.ofNat 1))]] (Helper.builtinSource 1)

/-- An element has an animation of a name. -/
def named : Operation := .apply ⟨1⟩ ⟨some "spin", [], "{x: k}"⟩ [0]

/-- Another element is to have one of the same name as soon as it comes into view. -/
def takes : Operation := .apply ⟨2⟩ ⟨some "spin", ["in-view"], "{x: spring(k)}"⟩ [0]

/-- Data changes while the helper is on its way, the first element comes into view, and the
helper arrives. -/
def later : List Operation :=
  [.write 0 "k" (.number (Number.ofNat 2)), .input (.sourceChanged ⟨2⟩),
    .input (.enteredView ⟨1⟩), .tick]

end TakenName

open TakenName in
/-- Two runs of an armed animation are dispatched by one tick.  Each of them takes the name over
in its turn, and neither plays. -/
theorem armed_refreshed_twice_in_one_tick :
    let before := begun.performAll [named]
    let stage := before.performAll (takes :: later)
    dispatchedRuns ⟨2⟩ stage.history = [2, 3] ∧ playsFor ⟨2⟩ stage.history = 0 ∧
      ∀ run name element resolved,
        .dispatched run ⟨2⟩ name element resolved ∈ stage.history →
        name = some "spin" ∧ element = ⟨2⟩ ∧
        ∃ moment ∈ before.momentsAll (takes :: later),
          Refreshed moment run ⟨2⟩ name element resolved := by
  intro before stage
  have dispatched : dispatchedRuns ⟨2⟩ stage.history = [2, 3] := by decide +kernel
  have fresh : ∀ entry ∈ gather Event.bound? before.history, entry.1 ≠ 2 := by decide +kernel
  have bound : ∃ entry ∈ gather Event.bound? (before.perform takes).history,
      entry.1 = 2 ∧ entry.2.2.triggers = ⟨true, false⟩ ∧ entry.2.2.element = ⟨2⟩ ∧
        entry.2.2.name = some "spin" := by
    decide +kernel
  obtain ⟨⟨number, label, animation⟩, here, rfl, armed, own, named⟩ := bound
  have unbound : .bound ⟨2⟩ label animation ∉ before.history := fun there =>
    fresh _ (mem_gather_bound.mpr there) rfl
  have unseen : .input (.enteredView animation.element) ∉ later := by
    have element : animation.element = ⟨2⟩ := own
    simp [later, element]
  obtain ⟨silent, refreshed⟩ := armed_refreshed_not_played .standard
    [[("k", .number (Number.ofNat 1))]] (Helper.builtinSource 1) [TakenName.named] takes later
    unbound (mem_gather_bound.mp here) armed unseen
  refine ⟨dispatched, silent, fun run name element resolved recorded => ?_⟩
  obtain ⟨rfl, rfl, moment⟩ := refreshed run name element resolved recorded
  exact ⟨named, own, moment⟩

end Stage

end Choreography
