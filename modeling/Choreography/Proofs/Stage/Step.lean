import Mathlib.Logic.Relation
import Choreography.Proofs.Expression.Reports
import Choreography.Proofs.Stage.Changes

/-!
# Steps

Every operation but a tick is a sequence of a few kinds of steps (`perform_steps`),
so an invariant is checked once for each kind:

* `unbound` — something that concerns no binding;
* `released` — bindings leave the stage;
* `installed` — a binding comes to the stage and its first run is scheduled;
* `changed` — a run is scheduled because data changed;
* `entered` — the element of a binding enters the view, and a run is scheduled;
* `tornDown` — the names of an element without bindings are given up.

A tick polls the waiting runs one after the other, so an invariant speaks of a stage
together with the runs that are still to be polled (`performAll_invariant`).
-/

namespace Choreography

namespace Stage

/-! ## Steps -/

/-- One step of a stage, a tick apart.  At most one binding is told that its data
changed. -/
inductive Step (told : Option BindingId) : Stage → Stage → Prop
  | unbound {before after : Stage} (passes : Passes before after) : Step told before after
  | released (stage : Stage) (chosen : Binding → Bool) :
    Step told stage (stage.release chosen)
  | installed (stage : Stage) (label : String) (animation : Animation) (chain : Chain) :
    Step told stage
      ((stage.bind label animation chain).1.schedule
        (stage.bind label animation chain).2 .initial).1
  | changed (stage : Stage) {id : BindingId} (tells : told = some id) :
    Step told stage (stage.schedule id .sourceChanged).1
  | entered (stage : Stage) {binding : Binding} (here : binding ∈ stage.bindings)
    (responds : respondsToView stage.settings binding.view = true) :
    Step told stage (stage.enter binding)
  | tornDown (stage : Stage) (element : ElementId)
    (gone : ∀ binding ∈ stage.bindings, binding.element ≠ element) :
    Step told stage
      ({ stage with registry := stage.registry.release element }.record (.tornDown element))

/-- Any number of steps. -/
abbrev Steps (told : Option BindingId) : Stage → Stage → Prop :=
  Relation.ReflTransGen (Step told)

section

variable {told : Option BindingId}

theorem absorb_steps (diagnostics : List Diagnostic) (stage : Stage) :
    Steps told stage (stage.absorb diagnostics) :=
  .single (.unbound (absorb_passes stage diagnostics))

theorem foldl_install_steps (label : String) (chain : Chain) (animations : List Animation)
    (state : Stage × List BindingId) :
    Steps told state.1 (animations.foldl (install label chain) state).1 := by
  induction animations generalizing state with
  | nil => exact .refl
  | cons animation rest ih =>
    exact .head (.installed state.1 label animation chain)
      (ih (install label chain state animation))

theorem apply_steps (stage : Stage) (element : ElementId) (directive : Directive)
    (chain : Chain) : Steps told stage (stage.apply element directive chain).1 := by
  let label := directive.label stage.settings.directiveStart
  let released := stage.release fun binding =>
    binding.element = element && binding.label = label
  let compiled := directive.compile (released.data.scope chain) element label
  show Steps told stage (compiled.result.foldl (install label chain)
    (released.absorb compiled.diagnostics, [])).1
  exact .head (.released stage _)
    ((absorb_steps compiled.diagnostics released).trans
      (foldl_install_steps label chain compiled.result (_, [])))

/-- An entry concerns a binding by its id and its element. -/
theorem enter_congr (stage : Stage) {binding other : Binding} (id : binding.id = other.id)
    (element : binding.element = other.element) : stage.enter binding = stage.enter other := by
  unfold enter
  rw [id, element]

theorem foldl_enter_steps (entering : List Binding) (stage : Stage)
    (distinct : (entering.map Binding.id).Nodup)
    (here : ∀ binding ∈ entering, ∃ current ∈ stage.bindings,
      current.id = binding.id ∧ current.element = binding.element ∧
        current.view = binding.view)
    (responds : ∀ binding ∈ entering, respondsToView stage.settings binding.view = true) :
    Steps told stage (entering.foldl enter stage) := by
  induction entering generalizing stage with
  | nil => exact .refl
  | cons binding rest ih =>
    obtain ⟨absent, others⟩ := List.nodup_cons.mp distinct
    obtain ⟨current, present, id, element, view⟩ := here binding List.mem_cons_self
    have responding := responds binding List.mem_cons_self
    have step : Step told stage (stage.enter binding) := by
      rw [enter_congr stage id.symm element.symm]
      exact .entered stage present (view ▸ responding)
    obtain ⟨settings, change, touches, changed⟩ := enter_bindings stage binding
    refine .head step (ih (stage.enter binding) others ?_ ?_)
    · -- the entries of the others are still to come, so they stand as before
      intro other waiting
      obtain ⟨standing, there, sameId, sameElement, sameView⟩ :=
        here other (List.mem_cons_of_mem _ waiting)
      have different : standing.id ≠ binding.id := by
        intro same
        exact absent (same ▸ sameId ▸ List.mem_map_of_mem waiting)
      refine ⟨standing, ?_, sameId, sameElement, sameView⟩
      rw [changed]
      refine List.mem_map.mpr ⟨standing, ?_, touches.others standing different⟩
      exact List.mem_map.mpr ⟨standing, there, if_neg different⟩
    · intro other waiting
      rw [settings]
      exact responds other (List.mem_cons_of_mem _ waiting)

theorem handle_steps (stage : Stage) (distinct : (stage.bindings.map Binding.id).Nodup)
    (input : Input) : Steps (stage.told? (.input input)) stage (stage.handle input) := by
  cases input with
  | sourceChanged subscription =>
    unfold handle
    dsimp only
    split
    · rename_i id subscribed
      have step : Step (stage.told? (.input (.sourceChanged subscription))) stage
          (stage.schedule id .sourceChanged).1 := .changed stage subscribed
      exact .single step
    · exact .refl
  | enteredView element =>
    refine foldl_enter_steps _ stage ?_ ?_ ?_
    · exact distinct.sublist (List.filter_sublist.map Binding.id)
    · intro binding here
      exact ⟨binding, (List.mem_filter.mp here).1, rfl, rfl, rfl⟩
    · intro binding here
      have chosen := (List.mem_filter.mp here).2
      rw [Bool.and_eq_true] at chosen
      exact chosen.2
  | teardown element =>
    refine .head (.released stage fun binding => binding.element = element)
      (.single (.tornDown _ element ?_))
    intro binding here same
    obtain ⟨there, kept⟩ := mem_release_bindings.mp here
    exact kept binding there (by simp [same]) rfl

end

/-- Where bindings have distinct ids, every operation but a tick is a sequence of
steps. -/
theorem perform_steps (stage : Stage) (distinct : (stage.bindings.map Binding.id).Nodup)
    (operation : Operation) (noTick : operation ≠ .tick) :
    Steps (stage.told? operation) stage (stage.perform operation) := by
  cases operation with
  | apply element directive chain => exact apply_steps stage element directive chain
  | input input => exact handle_steps stage distinct input
  | tick => exact (noTick rfl).elim
  | _ => exact .single (.unbound (perform_passes stage rfl))

/-! ## Operations part by part -/

/-- The stage at the beginning of a tick: every run that waits is taken off. -/
def takeUp (stage : Stage) : Stage := { stage with pending := [] }

/-- What holds once the waiting runs are taken off, and is kept by each poll, holds after a
tick. -/
theorem tick_induction {motive : Stage → Prop} {stage : Stage} (begun : motive stage.takeUp)
    (polled : ∀ state waiting, motive state.1 → motive (pollRun state waiting).1) :
    motive stage.tick.1 :=
  List.foldlRecOn (motive := fun state : Stage × Nat => motive state.1) (b := (stage.takeUp, 0))
    stage.pending pollRun begun fun state holds waiting _ => polled state waiting holds

/-- What holds after the release by which an application begins, and is kept by reports and by
each animation of the directive as it is installed, holds after the application. -/
theorem apply_induction_compiled {motive : Stage → Prop} {stage : Stage} {element : ElementId}
    {directive : Directive} {chain : Chain}
    (released : motive (stage.release fun binding => binding.element = element &&
      binding.label = directive.label stage.settings.directiveStart))
    (reported : ∀ before diagnostic, motive before → motive (before.report diagnostic))
    (installed : ∀ before label,
      ∀ animation ∈ (directive.compile (stage.data.scope chain) element
        (directive.label stage.settings.directiveStart)).result, motive before →
      motive ((before.bind label animation chain).1.schedule
        (before.bind label animation chain).2 .initial).1) :
    motive (stage.apply element directive chain).1 := by
  let chosen (binding : Binding) : Bool :=
    binding.element = element && binding.label = directive.label stage.settings.directiveStart
  refine List.foldlRecOn (motive := fun state : Stage × List BindingId => motive state.1)
    _ (install _ chain) ?_ ?_
  · show motive (absorb _ _)
    rw [absorb_eq_reportAll]
    exact List.foldlRecOn _ report released fun before holds diagnostic _ =>
      reported before diagnostic holds
  · intro state holds animation here
    -- the release leaves the data that the directive is compiled with as they are
    rw [(release_releases stage chosen).data] at here
    exact installed state.1 _ animation here holds

/-- The same where only the element of the animations matters. -/
theorem apply_induction {motive : Stage → Prop} {stage : Stage} {element : ElementId}
    {directive : Directive} {chain : Chain}
    (released : motive (stage.release fun binding => binding.element = element &&
      binding.label = directive.label stage.settings.directiveStart))
    (reported : ∀ before diagnostic, motive before → motive (before.report diagnostic))
    (installed : ∀ before label animation, animation.element = element → motive before →
      motive ((before.bind label animation chain).1.schedule
        (before.bind label animation chain).2 .initial).1) :
    motive (stage.apply element directive chain).1 :=
  apply_induction_compiled released reported fun before label animation here holds =>
    installed before label animation (directive.element_of_mem_compile _ _ here) holds

/-- What is kept by releases, entries into view, runs for a change of data and the release of
names is kept by every input. -/
theorem handle_induction {motive : Stage → Prop} {stage : Stage} (holds : motive stage)
    (input : Input) (released : ∀ chosen, motive (stage.release chosen))
    (entered : ∀ before binding, motive before → motive (before.enter binding))
    (changed : ∀ id, motive (stage.schedule id .sourceChanged).1)
    (tornDown : ∀ before element, motive before → motive
      ({ before with registry := before.registry.release element }.record (.tornDown element))) :
    motive (stage.handle input) := by
  cases input with
  | sourceChanged subscription =>
    unfold handle
    dsimp only
    split
    · exact changed _
    · exact holds
  | enteredView element =>
    exact List.foldlRecOn _ enter holds fun before holds binding _ => entered before binding holds
  | teardown element =>
    exact tornDown _ element (released fun binding => binding.element = element)

/-! ## Invariants -/

/-- What every step keeps holds after any number of steps. -/
theorem steps_invariant {told : Option BindingId} (invariant : Stage → Prop)
    {before after : Stage}
    (stepped : ∀ before after, Step told before after → invariant before → invariant after)
    (steps : Steps told before after) (holds : invariant before) : invariant after := by
  induction steps with
  | refl => exact holds
  | tail _ step ih => exact stepped _ _ step ih

/-- The polls of a tick keep an invariant that one poll keeps, whatever the runs that
are still to be polled. -/
theorem foldl_pollRun_invariant (invariant : Stage → List PendingRun → Prop)
    (polled : ∀ stage waiting queue plays, invariant stage (waiting :: queue) →
      invariant (pollRun (stage, plays) waiting).1 queue)
    (queue : List PendingRun) (state : Stage × Nat) (holds : invariant state.1 queue) :
    invariant (queue.foldl pollRun state).1 [] := by
  induction queue generalizing state with
  | nil => exact holds
  | cons waiting rest ih =>
    exact ih (pollRun state waiting) (polled state.1 waiting rest state.2 holds)

/-- An invariant of a stage and the runs that a tick has still to poll holds after any
operations, if it holds at first, at the beginning of a tick, after a poll and after
any other step. -/
theorem performAll_invariant (invariant : Stage → List PendingRun → Prop)
    (distinct : ∀ stage, invariant stage [] → (stage.bindings.map Binding.id).Nodup)
    (begun : ∀ stage, invariant stage [] → invariant stage.takeUp stage.pending)
    (polled : ∀ stage waiting queue plays, invariant stage (waiting :: queue) →
      invariant (pollRun (stage, plays) waiting).1 queue)
    (stepped : ∀ told before after, Step told before after → invariant before [] →
      invariant after [])
    (operations : List Operation) (stage : Stage) (holds : invariant stage []) :
    invariant (stage.performAll operations) [] := by
  induction operations generalizing stage with
  | nil => exact holds
  | cons operation rest ih =>
    refine ih (stage.perform operation) ?_
    by_cases isTick : operation = .tick
    · subst isTick
      exact foldl_pollRun_invariant invariant polled stage.pending (stage.takeUp, 0)
        (begun stage holds)
    · exact steps_invariant (fun after => invariant after []) (stepped _)
        (perform_steps stage (distinct stage holds) operation isTick) holds

end Stage

end Choreography
