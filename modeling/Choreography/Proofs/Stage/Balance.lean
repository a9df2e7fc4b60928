import Choreography.Proofs.Stage.Departures
import Choreography.Proofs.Stage.Observation

/-!
# How often an element is observed

An engine is asked to observe an element anew for each binding that waits for the view, and to
stop once for each of them: at the entry if only the first one counts, and else when the binding
is released.  So **an element is observed as many times as it has bindings that wait, or that
have entered and wait for the next entry** (`observations_balance`), and an element that was
torn down is not observed any more.

Runs have no part in this (`Still.balanced`), whether they are dispatched, fail or wait.
-/

namespace Choreography

/-- How often a history asks for the observation of an element to begin, or to end. -/
def timesAsked (element : ElementId) (begins : Bool) (history : List Event) : Nat :=
  history.countP fun event => event.watch? element = some begins

/-- How many times more the observation of an element has begun than it has ended. -/
def timesObserved (element : ElementId) (history : List Event) : Int :=
  timesAsked element true history - timesAsked element false history

section

variable {element : ElementId} {begins : Bool}

theorem timesAsked_append (events history : List Event) :
    timesAsked element begins (events ++ history) =
      timesAsked element begins events + timesAsked element begins history :=
  List.countP_append

/-- What asks nothing of the observation does not count. -/
theorem timesAsked_eq_zero {events : List Event}
    (spares : ∀ event ∈ events, event.sparesWatch element = true) :
    timesAsked element begins events = 0 := by
  refine List.countP_eq_zero.mpr fun event here => ?_
  have silent : event.watch? element = none := Option.isNone_iff_eq_none.mp (spares event here)
  simp [silent]

end

namespace Stage

/-- Whether an element is observed for a binding. -/
def observes (settings : Settings) (element : ElementId) (binding : Binding) : Bool :=
  binding.element = element && isObserving settings binding.view

/-- The number of the bindings of an element that stand to the view in a given way. -/
def inView (stage : Stage) (element : ElementId) (view : ViewState) : Nat :=
  stage.bindings.countP fun binding => binding.element = element && binding.view = view

/-- A stage on which an element is observed once for each binding for which it is. -/
def Balanced (element : ElementId) (stage : Stage) : Prop :=
  timesAsked element true stage.history =
    timesAsked element false stage.history +
      stage.bindings.countP (observes stage.settings element)

/-- The bindings for which an element is observed wait for the view, or have entered it where
every entry counts. -/
theorem countP_observes (stage : Stage) (element : ElementId) :
    stage.bindings.countP (observes stage.settings element) =
      stage.inView element .waiting +
        if stage.settings.inViewOnce then 0 else stage.inView element .entered := by
  unfold inView
  induction stage.bindings with
  | nil => simp
  | cons binding rest ih =>
    simp only [List.countP_cons, ih]
    cases once : stage.settings.inViewOnce <;> cases view : binding.view <;>
      simp [observes, isObserving, once, view] <;> omega

section

variable {element : ElementId} {stage before after : Stage}

/-- Where nothing happens to the view of an element, it stays balanced. -/
theorem Still.balanced (still : Still element before after) (balanced : Balanced element before) :
    Balanced element after := by
  obtain ⟨change, keeps, changed⟩ := still.bindings
  obtain ⟨events, spares, added⟩ := still.adds
  have same : observes before.settings element ∘ change = observes before.settings element := by
    funext binding
    simp [observes, keeps]
  rw [Balanced, added, timesAsked_append, timesAsked_append, timesAsked_eq_zero spares,
    timesAsked_eq_zero spares, Nat.zero_add, Nat.zero_add, still.settings, changed,
    List.countP_map, same]
  exact balanced

/-! ## Bindings that begin and end -/

/-- A binding asks once for the observation of its element, if it waits for the view. -/
theorem timesAsked_welcome (element : ElementId) (begins : Bool) (id : BindingId) (label : String)
    (animation : Animation) (fresh : List (SubscriptionId × String)) :
    timesAsked element begins (welcome id label animation fresh) =
      if begins ∧ animation.triggers.visible ∧ animation.element = element then 1 else 0 := by
  have subscribed : timesAsked element begins
      ((fresh.map fun entry => Event.subscribed id entry.2 entry.1).reverse ++
        [.bound id label animation]) = 0 := by
    refine timesAsked_eq_zero fun event here => ?_
    rcases List.mem_append.mp here with here | here
    · obtain ⟨entry, -, rfl⟩ := List.mem_map.mp (List.mem_reverse.mp here)
      rfl
    · rw [List.mem_singleton.mp here]
      rfl
  rw [welcome, timesAsked_append, subscribed]
  cases begins <;> by_cases visible : animation.triggers.visible <;>
    by_cases own : animation.element = element <;>
      simp [timesAsked, Event.watch?, visible, own]

theorem bind_balanced (balanced : Balanced element stage) (label : String)
    (animation : Animation) (chain : Chain) :
    Balanced element (stage.bind label animation chain).1 := by
  rw [Balanced] at balanced
  rw [bind_eq, Balanced]
  dsimp only
  rw [timesAsked_append, timesAsked_append, timesAsked_welcome, timesAsked_welcome,
    List.countP_append, List.countP_singleton, balanced]
  by_cases visible : animation.triggers.visible <;>
    by_cases own : animation.element = element <;>
      simp [observes, isObserving, Binding.element, visible, own]; omega

/-- The end of a binding asks nobody to begin an observation, and to stop one exactly if the
element is observed for the binding. -/
theorem timesAsked_farewell (settings : Settings) (element : ElementId) (begins : Bool)
    (binding : Binding) :
    timesAsked element begins (farewell settings binding) =
      if begins = false ∧ observes settings element binding then 1 else 0 := by
  have unsubscribed : timesAsked element begins
      ((binding.subscriptions.map (Event.unsubscribed binding.id)).reverse ++
        [.released binding.id]) = 0 := by
    refine timesAsked_eq_zero fun event here => ?_
    rcases List.mem_append.mp here with here | here
    · obtain ⟨subscription, -, rfl⟩ := List.mem_map.mp (List.mem_reverse.mp here)
      rfl
    · rw [List.mem_singleton.mp here]
      rfl
  rw [farewell, timesAsked_append, unsubscribed]
  cases begins <;> by_cases observing : isObserving settings binding.view <;>
    by_cases own : binding.element = element <;>
      simp [timesAsked, Event.watch?, observes, observing, own]

theorem timesAsked_farewells (settings : Settings) (element : ElementId) (begins : Bool)
    (released : List Binding) :
    timesAsked element begins (released.flatMap (farewell settings)) =
      if begins then 0 else released.countP (observes settings element) := by
  induction released with
  | nil => cases begins <;> rfl
  | cons binding rest ih =>
    rw [List.flatMap_cons, timesAsked_append, timesAsked_farewell, ih]
    cases begins <;> simp [List.countP_cons, Nat.add_comm]

theorem release_balanced (distinct : (stage.bindings.map Binding.id).Nodup)
    (balanced : Balanced element stage) (chosen : Binding → Bool) :
    Balanced element (stage.release chosen) := by
  have dropped (begins : Bool) : timesAsked element begins
      (((stage.pending.filter fun run =>
        ((stage.bindings.filter chosen).map Binding.id).contains run.binding).map
          fun run => Event.dropped run.run run.binding).reverse) = 0 := by
    refine timesAsked_eq_zero fun event here => ?_
    obtain ⟨run, -, rfl⟩ := List.mem_map.mp (List.mem_reverse.mp here)
    rfl
  have asked (begins : Bool) : timesAsked element begins (stage.release chosen).history =
      (if begins then 0 else
        (stage.bindings.filter chosen).countP (observes stage.settings element)) +
          timesAsked element begins stage.history := by
    rw [release_eq]
    dsimp only
    rw [timesAsked_append, timesAsked_append, dropped, timesAsked_farewells, List.countP_reverse,
      Nat.zero_add]
  have parts := List.countP_eq_countP_filter_add stage.bindings
    (observes stage.settings element) chosen
  rw [Balanced] at balanced
  rw [Balanced, asked, asked, (release_releases stage chosen).settings,
    bindings_release distinct chosen, balanced]
  simp only [if_true, Bool.false_eq_true, if_false] at parts ⊢
  omega

/-! ## Entries into view -/

/-- A change of one binding counts for this binding only. -/
theorem countP_update {stage : Stage} (distinct : (stage.bindings.map Binding.id).Nodup)
    {binding : Binding} (here : binding ∈ stage.bindings) (change : Binding → Binding)
    (counts : Binding → Bool) :
    (stage.update binding.id change).bindings.countP counts + (counts binding).toNat =
      stage.bindings.countP counts + (counts (change binding)).toNat := by
  obtain ⟨earlier, later, parts⟩ := List.append_of_mem here
  rw [parts, List.map_append, List.map_cons, List.nodup_middle, ← List.map_append] at distinct
  have others : ∀ other ∈ earlier ++ later, other.id ≠ binding.id := fun other among same =>
    (List.nodup_cons.mp distinct).1 (same ▸ List.mem_map_of_mem among)
  have unchanged {part : List Binding} (among : ∀ other ∈ part, other ∈ earlier ++ later) :
      part.map (fun other => if other.id = binding.id then change other else other) = part :=
    (List.map_congr_left fun other there => if_neg (others other (among other there))).trans
      (List.map_id' part)
  show (stage.bindings.map _).countP counts + _ = _
  rw [parts, List.map_append, List.map_cons, if_pos rfl,
    unchanged fun _ => List.mem_append_left later,
    unchanged fun _ => List.mem_append_right earlier]
  cases before : counts binding <;> cases after : counts (change binding) <;>
    simp [List.countP_append, before, after] <;> omega

/-- An element is observed for every binding that its entry concerns. -/
theorem observes_of_respondsToView {settings : Settings} {binding : Binding}
    (responds : respondsToView settings binding.view = true) :
    observes settings element binding = decide (binding.element = element) := by
  unfold observes
  revert responds
  cases once : settings.inViewOnce <;> cases binding.view <;>
    simp [respondsToView, isObserving, once]

/-- What ends the observation of an element counts as an end of it. -/
theorem timesAsked_unobserved (begins : Bool) (id : BindingId) (own : ElementId)
    (history : List Event) :
    timesAsked element begins (.unobserved id own :: history) =
      timesAsked element begins history + (!begins && decide (own = element)).toNat := by
  rw [timesAsked, List.countP_cons, timesAsked]
  cases begins <;> by_cases same : own = element <;> simp [Event.watch?, same]

/-- A binding whose element enters the view has it observed no longer exactly if only the first
entry counts. -/
theorem lookAt_balanced (distinct : (stage.bindings.map Binding.id).Nodup)
    (balanced : Balanced element stage) {binding : Binding} (here : binding ∈ stage.bindings)
    (responds : respondsToView stage.settings binding.view = true) :
    Balanced element (stage.lookAt binding) := by
  let looked (binding : Binding) : Binding := { binding with view := .entered }
  have counted := countP_update distinct here looked (observes stage.settings element)
  rw [Balanced] at balanced
  have entered : observes stage.settings element (looked binding) =
      (decide (binding.element = element) && !stage.settings.inViewOnce) := by
    rfl
  rw [observes_of_respondsToView responds, entered] at counted
  unfold lookAt
  dsimp only
  split
  · rename_i first
    have once : stage.settings.inViewOnce = true := first
    show timesAsked element true (_ :: stage.history) =
      timesAsked element false (_ :: stage.history) +
        (stage.update binding.id looked).bindings.countP (observes stage.settings element)
    rw [once, Bool.not_true, Bool.and_false, Bool.toNat_false, Nat.add_zero] at counted
    rw [timesAsked_unobserved, timesAsked_unobserved, balanced, ← counted, Bool.not_true,
      Bool.false_and, Bool.not_false, Bool.true_and, Bool.toNat_false]
    omega
  · rename_i every
    have every : stage.settings.inViewOnce = false := Bool.eq_false_iff.mpr every
    rw [every, Bool.not_false, Bool.and_true] at counted
    show timesAsked element true stage.history = timesAsked element false stage.history +
      (stage.update binding.id looked).bindings.countP (observes stage.settings element)
    rw [Nat.add_right_cancel counted]
    exact balanced

end

/-! ## Runs of operations -/

/-- No step changes the settings. -/
theorem step_settings {told : Option BindingId} {before after : Stage}
    (step : Step told before after) : after.settings = before.settings := by
  cases step with
  | unbound passes => exact passes.settings
  | released chosen => exact (release_releases before chosen).settings
  | installed label animation chain =>
    exact (schedule_touches _ _ _).1.trans (bind_binds before label animation chain).settings
  | changed tells => exact (schedule_touches before _ _).1
  | entered here responds => exact (enter_bindings before _).1
  | tornDown torn gone => rfl

/-- Every step keeps the observation of an element balanced. -/
theorem step_balanced {element : ElementId} {told : Option BindingId} {before after : Stage}
    (step : Step told before after) (distinct : (before.bindings.map Binding.id).Nodup)
    (balanced : Balanced element before) : Balanced element after := by
  cases step with
  | unbound passes => exact passes.still.balanced balanced
  | released chosen => exact release_balanced distinct balanced chosen
  | installed label animation chain =>
    exact (schedule_still element _ _ _).balanced (bind_balanced balanced label animation chain)
  | changed tells => exact (schedule_still element before _ _).balanced balanced
  | entered here responds =>
    rw [enter_eq]
    exact (schedule_still element _ _ _).balanced
      (lookAt_balanced distinct balanced here responds)
  | tornDown torn gone =>
    have still : Still element before ({ before with
        registry := before.registry.release torn }.record (.tornDown torn)) :=
      .of_same rfl rfl (.single rfl rfl)
    exact still.balanced balanced

/-- **Operations keep the observation of an element balanced.** -/
theorem performAll_balanced {stage : Stage} (sound : Sound stage []) {element : ElementId}
    (balanced : Balanced element stage) (operations : List Operation) :
    (stage.performAll operations).settings = stage.settings ∧
      Balanced element (stage.performAll operations) := by
  have kept := performAll_invariant (fun later queue => Sound later queue ∧
      later.settings = stage.settings ∧ Balanced element later)
    (fun _ holds => holds.1.distinct)
    (fun later holds => ⟨takeUp_sound holds.1, holds.2.1,
      (takeUp_still element later).balanced holds.2.2⟩)
    (fun later waiting queue plays ⟨sound, settings, balanced⟩ => by
      have still := pollRun_still element (later, plays) waiting
      exact ⟨pollRun_sound sound plays, still.settings.trans settings, still.balanced balanced⟩)
    (fun told before after step ⟨sound, settings, balanced⟩ =>
      ⟨step_sound step sound, (step_settings step).trans settings,
        step_balanced step sound.distinct balanced⟩)
    operations stage ⟨sound, rfl, balanced⟩
  exact kept.2

/-- On a balanced stage an element is observed for each binding for which it is. -/
theorem Balanced.timesObserved {element : ElementId} {stage : Stage}
    (balanced : Balanced element stage) :
    timesObserved element stage.history =
      (stage.bindings.countP (observes stage.settings element) : Nat) := by
  rw [Balanced] at balanced
  rw [Choreography.timesObserved, balanced]
  omega

/-- **Observation balances.**  After any operations on a new stage, the observation of an element
has begun as many times more than it has ended as the element has bindings that wait for the
view, or that have entered it where every entry counts.  So it never ended more often than it
began; and from a teardown on it has ended as often, until a directive is applied to the
element. -/
theorem observations_balance (settings : Settings) (data : Store) (source : HelperSupply)
    (operations : List Operation) (element : ElementId) :
    let stage := (new settings data source).performAll operations
    timesObserved element stage.history =
      stage.inView element .waiting +
        (if settings.inViewOnce then 0 else stage.inView element .entered) ∧
    0 ≤ timesObserved element stage.history ∧
    ∀ later : List Operation,
      (∀ operation ∈ later, ∀ directive chain, operation ≠ .apply element directive chain) →
      timesObserved element
        ((stage.perform (.input (.teardown element))).performAll later).history = 0 := by
  intro stage
  have begun := new_sound settings data source
  have sound : Sound stage [] := performAll_sound begun operations
  obtain ⟨same, balanced⟩ : stage.settings = settings ∧ Balanced element stage :=
    performAll_balanced begun rfl operations
  refine ⟨?_, ?_, fun later elsewhere => ?_⟩
  · rw [balanced.timesObserved, countP_observes, same, Int.natCast_add]
  · rw [balanced.timesObserved]
    exact Int.natCast_nonneg _
  · -- the element has no bindings from then on
    have away := performAll_away (teardown_away stage element) later elsewhere
    have after : Balanced element
        (stage.performAll (.input (.teardown element) :: later)) :=
      (performAll_balanced sound balanced _).2
    rw [performAll_cons] at after
    rw [after.timesObserved, List.countP_eq_zero.mpr, Int.natCast_zero]
    intro binding here
    simp [observes, away.element_ne here]

namespace TwoDirectives

/-- A stage on which every entry into view counts. -/
def repeated : Stage := .new ⟨"x-motion", .y, false⟩ [[]] (Helper.builtinSource 1)

end TwoDirectives

open TwoDirectives in
/-- An element is observed for a binding that waits and for one that has entered the view, and
for neither of them once it is torn down. -/
theorem observations_balance_before_and_after_teardown :
    let stage := repeated.performAll [applied "a" ["in-view"], .input (.enteredView ⟨1⟩),
      applied "b" ["in-view"]]
    stage.inView ⟨1⟩ .waiting = 1 ∧ stage.inView ⟨1⟩ .entered = 1 ∧
      timesObserved ⟨1⟩ stage.history = 2 ∧
      timesObserved ⟨1⟩ ((stage.perform (.input (.teardown ⟨1⟩))).performAll
        [.lookup "b", .input (.enteredView ⟨1⟩)]).history = 0 := by
  intro stage
  obtain ⟨balance, -, ended⟩ := observations_balance ⟨"x-motion", .y, false⟩ [[]]
    (Helper.builtinSource 1) [applied "a" ["in-view"], .input (.enteredView ⟨1⟩),
      applied "b" ["in-view"]] ⟨1⟩
  have waiting : stage.inView ⟨1⟩ .waiting = 1 := by decide +kernel
  have entered : stage.inView ⟨1⟩ .entered = 1 := by decide +kernel
  rw [if_neg Bool.false_ne_true] at balance
  refine ⟨waiting, entered, ?_, ended _ (by simp)⟩
  calc timesObserved ⟨1⟩ stage.history
      = stage.inView ⟨1⟩ .waiting + stage.inView ⟨1⟩ .entered := balance
    _ = 2 := by rw [waiting, entered]; rfl

end Stage

end Choreography
