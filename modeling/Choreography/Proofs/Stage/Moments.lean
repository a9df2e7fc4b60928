import Choreography.Proofs.Stage.Latest

/-!
# Moments

An operation can let many runs go on, one after the other, and each that is dispatched writes
what it resolved, to be overwritten perhaps by the next one.  What holds after the operation
does not show this, so the stages that it leads through are listed (`moments`).  **After every
dispatch there is a moment at which its binding, and its name, hold what it resolved**
(`dispatched_refreshed`).
-/

namespace Choreography

namespace Stage

/-! ## The stages in between -/

/-- The stages that an operation leads through: those before and after each of the runs that it
schedules or polls. -/
def moments (stage : Stage) : Operation → List Stage
  | .apply element directive chain =>
    let label := directive.label stage.settings.directiveStart
    let released := stage.release fun binding =>
      binding.element = element && binding.label = label
    let compiled := directive.compile (released.data.scope chain) element label
    (compiled.result.scanl (install label chain)
      (released.absorb compiled.diagnostics, [])).map Prod.fst
  | .input (.enteredView element) =>
    (stage.bindings.filter fun binding =>
      binding.element = element && respondsToView stage.settings binding.view).scanl enter stage
  | .tick => (stage.pending.scanl pollRun (stage.takeUp, 0)).map Prod.fst
  | operation => [stage.perform operation]

/-- An operation ends with its last moment. -/
theorem getLast?_moments (stage : Stage) (operation : Operation) :
    (stage.moments operation).getLast? = some (stage.perform operation) := by
  cases operation with
  | apply element directive chain =>
    rw [moments, List.getLast?_map, List.getLast?_scanl]
    rfl
  | input input =>
    cases input with
    | enteredView element => exact List.getLast?_scanl
    | _ => rfl
  | tick =>
    rw [moments, List.getLast?_map, List.getLast?_scanl]
    rfl
  | _ => rfl

/-- The stages that a sequence of operations leads through. -/
def momentsAll (stage : Stage) : List Operation → List Stage
  | [] => []
  | operation :: rest => stage.moments operation ++ (stage.perform operation).momentsAll rest

/-- What comes about in a number of steps, though it did not hold at first, comes about at one of
them. -/
theorem exists_mem_scanl {α β : Type} {step : β → α → β} (holds shows : β → Prop)
    (stepped : ∀ state thing, holds (step state thing) → holds state ∨ shows (step state thing))
    {things : List α} {state : β} (reached : holds (things.foldl step state)) :
    holds state ∨ ∃ moment ∈ things.scanl step state, shows moment := by
  induction things generalizing state with
  | nil => exact .inl reached
  | cons thing rest ih =>
    rw [List.scanl_cons]
    rcases ih reached with now | ⟨moment, here, later⟩
    · rcases stepped state thing now with before | shown
      · exact .inl before
      · refine .inr ⟨step state thing, List.mem_cons_of_mem _ ?_, shown⟩
        cases rest <;> simp
    · exact .inr ⟨moment, List.mem_cons_of_mem _ here, later⟩

/-! ## What a dispatch writes -/

/-- A stage on which a run was the last of its binding to be dispatched, and the binding and the
name hold what it resolved, less what is about scrolling. -/
structure Refreshed (stage : Stage) (run : RunId) (id : BindingId) (name : Option String)
    (element : ElementId) (resolved : Fields Value) : Prop where
  latest : lastDispatch? id stage.history = some (run, resolved)
  options : (stage.binding? id).bind Binding.options = some (ScrollLink.otherFields resolved)
  registered : ∀ shown, name = some shown →
    stage.registry.registered shown = some (element, ScrollLink.otherFields resolved)

/-- From one stage to a later one at most one run is dispatched, and this has just been done. -/
def Refreshes (before after : Stage) : Prop :=
  ∀ run id name element resolved, .dispatched run id name element resolved ∈ after.history →
    .dispatched run id name element resolved ∈ before.history ∨
      Refreshed after run id name element resolved

theorem Refreshes.of_adds {before after : Stage}
    (adds : Adds Event.isNoDispatch before after) : Refreshes before after :=
  fun _ _ _ _ _ recorded => .inl (adds.dispatched_before recorded)

theorem Refreshes.after {first second third : Stage}
    (adds : Adds Event.isNoDispatch first second)
    (refreshes : Refreshes second third) : Refreshes first third :=
  fun _ _ _ _ _ recorded =>
    (refreshes _ _ _ _ _ recorded).imp_left adds.dispatched_before

theorem Dispatches.refreshes {run : RunId} {binding : Binding} {resolved : Fields Value}
    {before after : Stage} (dispatches : Dispatches run binding resolved before after)
    (found : before.binding? binding.id = some binding) : Refreshes before after := by
  intro number id name element values recorded
  refine (dispatches.of_mem_history recorded).symm.imp_right fun same => ?_
  obtain ⟨rfl, rfl, rfl, rfl, rfl⟩ := Event.dispatched.inj same
  obtain ⟨change, touches, written, changed⟩ := dispatches.bindings
  refine ⟨?_, ?_, fun shown own => ?_⟩
  · rw [dispatches.lastDispatch?_eq, if_pos rfl]
  · have touched : after.binding? binding.id = some (change binding) := by
      rw [Stage.binding?, changed, find?_touched touches]
      exact congrArg (Option.map change) found
    rw [touched]
    exact written binding rfl
  · rw [dispatches.registered, if_pos own]

theorem advance_refreshes {stage : Stage} {binding : Binding}
    (found : stage.binding? binding.id = some binding) (run : RunId) (reason : RunReason)
    (outcome : Except ResolveError Resolution) :
    Refreshes stage (stage.advance run binding reason outcome).1 := by
  match outcome with
  | .ok (.ready resolved) =>
    exact (dispatch_dispatches found run reason resolved).refreshes found
  | .ok (.pending options) => exact .of_adds (Adds.refl _ stage)
  | .error error =>
    exact .of_adds ⟨[.reported (failure binding.animation.label error),
      .failed run binding.id error], by simp [Event.isNoDispatch], rfl⟩

theorem schedule_refreshes (stage : Stage) (id : BindingId) (reason : RunReason) :
    Refreshes stage (stage.schedule id reason).1 := by
  refine schedule_cases (motive := Refreshes stage) stage id reason
    (.of_adds (Adds.refl _ stage)) ?_
  intro binding found _ outcome
  exact .after (.single rfl rfl) (advance_refreshes found _ reason outcome)

theorem pollRun_refreshes (state : Stage × Nat) (waiting : PendingRun) :
    Refreshes state.1 (pollRun state waiting).1 := by
  refine pollRun_cases (motive := Refreshes state.1) state waiting
    (.of_adds (.single rfl rfl)) ?_
  intro binding found _ outcome
  exact .after (Adds.refl _ state.1) (advance_refreshes found _ _ outcome)

theorem release_undispatched (stage : Stage) (chosen : Binding → Bool) :
    Adds Event.isNoDispatch stage (stage.release chosen) :=
  (release_releases stage chosen).adds.undispatched fun _ => Event.isIdle_of_isEnding

theorem install_refreshes (label : String) (chain : Chain) (state : Stage × List BindingId)
    (animation : Animation) :
    Refreshes state.1 (install label chain state animation).1 :=
  .after ((bind_binds state.1 label animation chain).adds.undispatched
    fun _ => Event.isIdle_of_isBeginning) (schedule_refreshes _ _ .initial)

theorem enter_refreshes (stage : Stage) (binding : Binding) :
    Refreshes stage (stage.enter binding) := by
  rw [enter_eq]
  exact .after ((lookAt_looks stage binding).adds.undispatched
    fun _ => Event.isIdle_of_isEnding) (schedule_refreshes _ _ .enteredView)

/-! ## Operations -/

section

variable {run : RunId} {id : BindingId} {name : Option String} {element : ElementId}
  {resolved : Fields Value}

theorem moments_refreshed {stage : Stage} {operation : Operation}
    (recorded : .dispatched run id name element resolved ∈ (stage.perform operation).history) :
    .dispatched run id name element resolved ∈ stage.history ∨
      ∃ moment ∈ stage.moments operation, Refreshed moment run id name element resolved := by
  let dispatch : Event := .dispatched run id name element resolved
  have single (refreshes : Refreshes stage (stage.perform operation)) :
      dispatch ∈ stage.history ∨ ∃ moment ∈ [stage.perform operation],
        Refreshed moment run id name element resolved :=
    (refreshes _ _ _ _ _ recorded).imp_right fun shown =>
      ⟨_, List.mem_singleton.mpr rfl, shown⟩
  cases operation with
  | apply target directive chain =>
    rcases exists_mem_scanl (fun state => dispatch ∈ state.1.history)
      (fun state => Refreshed state.1 run id name element resolved)
      (fun state animation => install_refreshes _ chain state animation _ _ _ _ _)
      recorded with before | ⟨state, here, shown⟩
    · -- the release and the reports of the compilation come first, and dispatch nothing
      let chosen : Binding → Bool := fun binding =>
        binding.element = target && binding.label = directive.label stage.settings.directiveStart
      have reported (diagnostics : List Diagnostic) :=
        (absorb_passes (stage.release chosen) diagnostics).adds.undispatched
          fun _ => Event.isIdle_of_isUnbound
      exact .inl ((release_undispatched stage chosen).dispatched_before
        ((reported _).dispatched_before before))
    · exact .inr ⟨state.1, List.mem_map_of_mem here, shown⟩
  | input input =>
    cases input with
    | sourceChanged subscription =>
      refine single ?_
      show Refreshes stage (stage.handle (.sourceChanged subscription))
      unfold handle
      dsimp only
      split
      · exact schedule_refreshes stage _ _
      · exact .of_adds (Adds.refl _ stage)
    | enteredView entered =>
      exact exists_mem_scanl (fun stage => dispatch ∈ stage.history)
        (fun stage => Refreshed stage run id name element resolved)
        (fun stage binding => enter_refreshes stage binding _ _ _ _ _) recorded
    | teardown torn =>
      refine single (.of_adds ((release_undispatched stage _).trans (.single ?_ rfl)))
      rfl
  | tick =>
    rcases exists_mem_scanl (fun state => dispatch ∈ state.1.history)
      (fun state => Refreshed state.1 run id name element resolved)
      (fun state waiting => pollRun_refreshes state waiting _ _ _ _ _)
      recorded with before | ⟨state, here, shown⟩
    · exact .inl before
    · exact .inr ⟨state.1, List.mem_map_of_mem here, shown⟩
  | _ =>
    exact single (.of_adds ((perform_passes stage rfl).adds.undispatched
      fun _ => Event.isIdle_of_isUnbound))

/-- **After every dispatch there is a moment at which its binding and its name hold what it
resolved.** -/
theorem dispatched_refreshed {stage : Stage} {operations : List Operation}
    (recorded : .dispatched run id name element resolved ∈ (stage.performAll operations).history) :
    .dispatched run id name element resolved ∈ stage.history ∨
      ∃ moment ∈ stage.momentsAll operations, Refreshed moment run id name element resolved := by
  induction operations generalizing stage with
  | nil => exact .inl recorded
  | cons operation rest ih =>
    rw [momentsAll]
    rcases ih recorded with during | ⟨moment, later, shown⟩
    · rcases moments_refreshed during with before | ⟨moment, here, shown⟩
      · exact .inl before
      · exact .inr ⟨moment, List.mem_append_left _ here, shown⟩
    · exact .inr ⟨moment, List.mem_append_right _ later, shown⟩

end

end Stage

end Choreography
