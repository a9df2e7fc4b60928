import Mathlib.Data.List.Sort
import Choreography.Helper.Catalogue
import Choreography.Proofs.Stage.Recorded

/-!
# Entries into view

A binding that waits for its element to enter the view, where only the first entry
counts, has two runs: one from its beginning and one for the entry.  A dispatch plays it
exactly if the element has entered by then, whichever of the two it is
(`performAll_entersOnce`).

* `playsFor_le_one_iff` — the binding is played at most once, except when its first run
  is dispatched after the entry and the run for the entry is dispatched too;
* `played_twice_on_entry` — a helper that arrives after the entry brings this about.
-/

namespace Choreography

namespace Event

/-- The run of a binding that an event schedules, and why. -/
def schedule? (id : BindingId) : Event → Option (RunId × RunReason)
  | .scheduled run binding reason => if binding = id then some (run, reason) else none
  | _ => none

/-- Whether an event schedules a run of a binding because its element entered the view. -/
def isEntryOf (id : BindingId) : Event → Bool
  | .scheduled _ binding .enteredView => binding = id
  | _ => false

end Event

/-- The runs of a binding that were scheduled, and why, the first one first. -/
def schedules (id : BindingId) (history : List Event) : List (RunId × RunReason) :=
  history.reverse.filterMap (Event.schedule? id)

/-- The runs of a binding that were dispatched after its element had entered the view, the
first one first. -/
def runsSinceEntry (id : BindingId) : List Event → List RunId
  | [] => []
  | event :: earlier =>
    runsSinceEntry id earlier ++
      if earlier.any (Event.isEntryOf id) then (event.dispatchedRun? id).toList else []

section

variable {events history : List Event}

theorem schedules_append (id : BindingId) (aside : ∀ event ∈ events, event.isAside = true) :
    schedules id (events ++ history) = schedules id history := by
  refine filterMap_reverse_append ?_
  intro event here
  have kind := aside event here
  cases event <;> first | rfl | cases kind

theorem schedules_cons (id : BindingId) (event : Event) :
    schedules id (event :: history) = schedules id history ++ (event.schedule? id).toList := by
  rw [schedules, List.reverse_cons, List.filterMap_append, filterMap_singleton]
  rfl

theorem mem_schedules {id : BindingId} {run : RunId} {reason : RunReason} :
    (run, reason) ∈ schedules id history ↔ .scheduled run id reason ∈ history := by
  rw [schedules, List.mem_filterMap]
  constructor
  · rintro ⟨event, here, read⟩
    rw [List.mem_reverse] at here
    cases event with
    | scheduled number binding why =>
      rw [Event.schedule?] at read
      split at read
      · rename_i same
        cases read
        exact same ▸ here
      · cases read
    | _ => cases read
  · intro here
    exact ⟨_, List.mem_reverse.mpr here, if_pos rfl⟩

theorem scheduledRuns_eq_map (id : BindingId) (history : List Event) :
    scheduledRuns id history = (schedules id history).map Prod.fst := by
  rw [scheduledRuns, schedules, List.map_filterMap]
  refine List.filterMap_congr ?_
  intro event _
  cases event with
  | scheduled run binding reason =>
    by_cases same : binding = id <;> simp [Event.scheduledRun?, Event.schedule?, same]
  | _ => rfl

/-- An entry is on record if a run was scheduled for it. -/
theorem any_isEntryOf {id : BindingId} :
    history.any (Event.isEntryOf id) = true ↔
      ∃ run, (run, .enteredView) ∈ schedules id history := by
  rw [List.any_eq_true]
  constructor
  · rintro ⟨event, here, entry⟩
    cases event with
    | scheduled run binding reason =>
      cases reason with
      | enteredView =>
        rw [Event.isEntryOf, decide_eq_true_eq] at entry
        exact ⟨run, mem_schedules.mpr (entry ▸ here)⟩
      | _ => cases entry
    | _ => cases entry
  · rintro ⟨run, scheduled⟩
    exact ⟨_, mem_schedules.mp scheduled, decide_eq_true rfl⟩

theorem any_isEntryOf_append (id : BindingId) (aside : ∀ event ∈ events, event.isAside = true) :
    (events ++ history).any (Event.isEntryOf id) = history.any (Event.isEntryOf id) := by
  rw [Bool.eq_iff_iff, any_isEntryOf, any_isEntryOf, schedules_append id aside]

/-- Events that dispatch nothing of a binding leave its runs since the entry. -/
theorem runsSinceEntry_append (events : List Event) {id : BindingId}
    (silent : ∀ event ∈ events, event.dispatchedRun? id = none) :
    runsSinceEntry id (events ++ history) = runsSinceEntry id history := by
  induction events with
  | nil => rfl
  | cons event rest ih =>
    rw [List.cons_append, runsSinceEntry, silent event List.mem_cons_self, Option.toList_none,
      ite_self, List.append_nil]
    exact ih fun other here => silent other (List.mem_cons_of_mem _ here)

/-- The runs that were dispatched since the entry are some of the dispatched ones. -/
theorem runsSinceEntry_sublist (id : BindingId) (history : List Event) :
    (runsSinceEntry id history).Sublist (dispatchedRuns id history) := by
  induction history with
  | nil => exact List.Sublist.refl _
  | cons event rest ih =>
    rw [runsSinceEntry, dispatchedRuns_cons]
    refine ih.append ?_
    split
    · exact List.Sublist.refl _
    · exact List.nil_sublist _

/-- Before the entry nothing was dispatched since. -/
theorem runsSinceEntry_of_not_entered {id : BindingId}
    (before : history.any (Event.isEntryOf id) = false) : runsSinceEntry id history = [] := by
  induction history with
  | nil => rfl
  | cons event rest ih =>
    rw [List.any_cons, Bool.or_eq_false_iff] at before
    rw [runsSinceEntry, ih before.2, if_neg (by simp [before.2])]
    rfl

end

namespace Event

/-- An aside dispatches nothing. -/
theorem dispatchedRun?_of_isAside {event : Event} (aside : event.isAside = true)
    (id : BindingId) : event.dispatchedRun? id = none := by
  cases event <;> first | rfl | cases aside

end Event

namespace Stage

/-- What is scheduled for a binding while it waits for its element to enter the view, and
after the entry. -/
def Phase (view : ViewState) (schedules : List (RunId × RunReason)) : Prop :=
  (view = .waiting ∧ ∃ first, schedules = [(first, .initial)]) ∨
    (view = .entered ∧ ∃ first entry, schedules = [(first, .initial), (entry, .enteredView)])

/-- A stage on which only first entries count, and a binding that waits for its own.  What
is scheduled for it is given by a phase, and it was played by each run that was dispatched
since the entry. -/
structure EntersOnce (id : BindingId) (phase : ViewState → List (RunId × RunReason) → Prop)
    (stage : Stage) (queue : List PendingRun) : Prop where
  once : stage.settings.inViewOnce = true
  unborn : stage.bindingCount < id.number → playsFor id stage.history = 0
  reasons : ∀ waiting ∈ stage.pending ++ queue, waiting.binding = id →
    (waiting.run, waiting.reason) ∈ schedules id stage.history
  phase : ∀ binding ∈ stage.bindings, binding.id = id →
    binding.animation.triggers = ⟨true, false⟩ →
      phase binding.view (schedules id stage.history)
  plays : ∀ binding ∈ stage.bindings, binding.id = id →
    binding.animation.triggers = ⟨true, false⟩ →
      playsFor id stage.history = (runsSinceEntry id stage.history).length

theorem new_entersOnce {settings : Settings} (once : settings.inViewOnce = true) (data : Store)
    (source : HelperSupply) (id : BindingId) :
    EntersOnce id Phase (new settings data source) [] where
  once := once
  unborn := fun _ => rfl
  reasons := nofun
  phase := nofun
  plays := nofun

namespace EntersOnce

variable {id : BindingId} {phase next : ViewState → List (RunId × RunReason) → Prop}
  {stage after : Stage} {queue still : List PendingRun}

/-- What schedules, dispatches and plays nothing of a binding takes it at most to another
phase. -/
theorem congr (enters : EntersOnce id phase stage queue)
    (settings : after.settings = stage.settings)
    (bindingCount : stage.bindingCount ≤ after.bindingCount)
    (bindings : ∀ binding ∈ after.bindings, binding.id = id → ∃ old ∈ stage.bindings,
      old.id = binding.id ∧ old.animation = binding.animation ∧
        ∀ scheduled, phase old.view scheduled → next binding.view scheduled)
    (pending : ∀ waiting ∈ after.pending ++ still, waiting ∈ stage.pending ++ queue)
    (scheduled : schedules id after.history = schedules id stage.history)
    (played : playsFor id after.history = playsFor id stage.history)
    (since : runsSinceEntry id after.history = runsSinceEntry id stage.history) :
    EntersOnce id next after still := by
  exact {
    once := by
      rw [settings]
      exact enters.once
    unborn := by
      intro unborn
      rw [played]
      exact enters.unborn (Nat.lt_of_le_of_lt bindingCount unborn)
    reasons := by
      intro waiting here own
      rw [scheduled]
      exact enters.reasons waiting (pending waiting here) own
    phase := by
      intro binding here own visible
      obtain ⟨old, there, same, animation, moves⟩ := bindings binding here own
      rw [scheduled]
      exact moves _ (enters.phase old there (same.trans own) (animation ▸ visible))
    plays := by
      intro binding here own visible
      obtain ⟨old, there, same, animation, -⟩ := bindings binding here own
      rw [played, since]
      exact enters.plays old there (same.trans own) (animation ▸ visible) }

/-- Idle events take a binding at most to another phase. -/
theorem of_adds {kind : Event → Bool} (enters : EntersOnce id phase stage queue)
    (asides : ∀ event, kind event = true → event.isIdle = true) (adds : Adds kind stage after)
    (settings : after.settings = stage.settings)
    (bindingCount : stage.bindingCount ≤ after.bindingCount)
    (bindings : ∀ binding ∈ after.bindings, binding.id = id → ∃ old ∈ stage.bindings,
      old.id = binding.id ∧ old.animation = binding.animation ∧
        ∀ scheduled, phase old.view scheduled → next binding.view scheduled)
    (pending : ∀ waiting ∈ after.pending ++ still, waiting ∈ stage.pending ++ queue) :
    EntersOnce id next after still := by
  obtain ⟨events, kinds, added⟩ := adds
  have idle : ∀ event ∈ events, event.isIdle = true := fun event here =>
    asides event (kinds event here)
  have aside : ∀ event ∈ events, event.isAside = true := fun event here =>
    Event.isAside_of_isIdle (idle event here)
  refine enters.congr settings bindingCount bindings pending ?_ ?_ ?_
  · rw [added, schedules_append id aside]
  · rw [added, playsFor_append id idle]
  · rw [added, runsSinceEntry_append _ fun event here =>
      Event.dispatchedRun?_of_isAside (aside event here) id]

end EntersOnce

/-! ## One run goes on -/

section

variable {run : RunId} {binding : Binding} {resolved : Fields Value} {before after : Stage}

theorem Dispatches.schedules_eq (dispatches : Dispatches run binding resolved before after)
    (id : BindingId) : schedules id after.history = schedules id before.history := by
  obtain ⟨late, early, asides, earlier, added⟩ := dispatches.exists_asides
  rw [added, schedules_append id asides, schedules_cons, schedules_append id earlier]
  exact List.append_nil _

/-- A dispatch after the entry adds its run to those since the entry. -/
theorem Dispatches.runsSinceEntry_eq (dispatches : Dispatches run binding resolved before after)
    (id : BindingId) :
    runsSinceEntry id after.history = runsSinceEntry id before.history ++
      if binding.id = id ∧ before.history.any (Event.isEntryOf id) = true then [run]
      else [] := by
  obtain ⟨late, early, asides, earlier, added⟩ := dispatches.exists_asides
  rw [added, runsSinceEntry_append _ fun event here =>
    Event.dispatchedRun?_of_isAside (asides event here) id, runsSinceEntry,
    any_isEntryOf_append id earlier, runsSinceEntry_append _ fun event here =>
      Event.dispatchedRun?_of_isAside (earlier event here) id, Event.dispatchedRun?]
  by_cases own : binding.id = id <;>
    by_cases since : before.history.any (Event.isEntryOf id) = true <;>
      simp only [own, since, true_and, false_and, if_true, if_false, Option.toList_some,
        Option.toList_none, ite_self]

end

/-- In either phase a run plays a binding exactly if the entry is on record. -/
theorem Phase.visibleRuns_iff {view : ViewState} {scheduled : List (RunId × RunReason)}
    (phase : Phase view scheduled) {run : RunId} {reason : RunReason}
    (known : (run, reason) ∈ scheduled) :
    visibleRuns reason view = true ↔ ∃ entry, (entry, .enteredView) ∈ scheduled := by
  rcases phase with ⟨rfl, first, rfl⟩ | ⟨rfl, first, entry, rfl⟩
  · cases List.mem_singleton.mp known
    simp [visibleRuns]
  · cases reason <;> simp [visibleRuns]

section

variable {id : BindingId} {stage : Stage} {run : RunId} {binding : Binding}
  {queue : List PendingRun} (held : Held stage run binding queue)
  (enters : EntersOnce id Phase stage queue) (reason : RunReason)

include held enters

/-- A dispatch plays the binding that waits for the view exactly if it counts as one since
the entry. -/
theorem Held.playsFor_dispatch (own : binding.id = id)
    (visible : binding.animation.triggers = ⟨true, false⟩)
    (known : (run, reason) ∈ schedules id stage.history) (resolved : Fields Value) :
    playsFor id (stage.dispatch run id reason resolved).1.history =
      (runsSinceEntry id (stage.dispatch run id reason resolved).1.history).length := by
  subst own
  have here := (mem_bindings_of_binding? held.found).1
  have phase := enters.phase binding here rfl visible
  have played := Stage.playsFor_dispatch held.found run reason resolved
  rw [snd_dispatch_of_visible held.found visible, enters.plays binding here rfl visible] at played
  rw [played, (dispatch_dispatches held.found run reason resolved).runsSinceEntry_eq,
    List.length_append]
  -- whatever the phase, the view lets the run play exactly if the entry is on record
  have entered := (phase.visibleRuns_iff known).trans any_isEntryOf.symm
  by_cases since : stage.history.any (Event.isEntryOf binding.id) = true
  · rw [if_pos (entered.mpr since), if_pos ⟨rfl, since⟩]
    rfl
  · rw [if_neg fun runs => since (entered.mp runs), if_neg fun both => since both.2]
    rfl

theorem Held.dispatch_entersOnce
    (known : binding.id = id → (run, reason) ∈ schedules id stage.history)
    (resolved : Fields Value) :
    EntersOnce id Phase (stage.dispatch run binding.id reason resolved).1 queue := by
  have dispatches := dispatch_dispatches held.found run reason resolved
  obtain ⟨change, touches, -, changed⟩ := dispatches.bindings
  have scheduled := dispatches.schedules_eq id
  have here := (mem_bindings_of_binding? held.found).1
  exact {
    once := by
      rw [dispatches.keeps.settings]
      exact enters.once
    unborn := by
      rw [dispatches.keeps.bindingCount]
      intro unborn
      have different : binding.id ≠ id := by
        rintro rfl
        exact Nat.not_lt_of_le (held.sound.numbered binding here) unborn
      rw [dispatches.playsFor_other different]
      exact enters.unborn unborn
    reasons := by
      rw [dispatches.keeps.pending, scheduled]
      exact enters.reasons
    phase := by
      rw [changed, scheduled]
      intro other there own visible
      obtain ⟨old, standing, rfl⟩ := List.mem_map.mp there
      rw [touches.id_eq] at own
      rw [touches.animation_eq] at visible
      rw [touches.view_eq]
      exact enters.phase old standing own visible
    plays := by
      rw [changed]
      intro other there own visible
      obtain ⟨old, standing, rfl⟩ := List.mem_map.mp there
      rw [touches.id_eq] at own
      rw [touches.animation_eq] at visible
      by_cases same : binding.id = id
      · -- the dispatched binding is the one that waits for the view
        have equal : old = binding := List.inj_on_of_nodup_map held.sound.distinct standing here
          (own.trans same.symm)
        subst equal
        rw [same]
        exact held.playsFor_dispatch enters reason own visible (known own) resolved
      · rw [dispatches.playsFor_other same, dispatches.runsSinceEntry_eq id,
          if_neg fun both => same both.1, List.append_nil]
        exact enters.plays old standing own visible }

/-- A run that goes on plays its binding exactly if the entry is on record. -/
theorem Held.advance_entersOnce
    (known : binding.id = id → (run, reason) ∈ schedules id stage.history)
    (outcome : Except ResolveError Resolution) :
    EntersOnce id Phase (stage.advance run binding reason outcome).1 queue := by
  match outcome with
  | .ok (.ready resolved) => exact held.dispatch_entersOnce enters reason known resolved
  | .ok (.pending options) =>
    refine ⟨enters.once, enters.unborn, ?_, enters.phase, enters.plays⟩
    intro waiting here own
    rcases mem_put_back.mp here with rfl | there
    · exact known own
    · exact enters.reasons waiting there own
  | .error error =>
    refine enters.congr rfl (Nat.le_refl _)
      (fun other here _ => ⟨other, here, rfl, rfl, fun _ kept => kept⟩)
      (fun _ here => here) ?_ ?_ ?_
    · show schedules id (.reported _ :: .failed run binding.id error :: stage.history) = _
      rw [schedules_cons, schedules_cons]
      exact (List.append_nil _).trans (List.append_nil _)
    · show playsFor id (.reported _ :: .failed run binding.id error :: stage.history) = _
      rw [playsFor, List.countP_cons_of_neg (by simp [Event.playsFor]),
        List.countP_cons_of_neg (by simp [Event.playsFor])]
      rfl
    · exact runsSinceEntry_append [.reported _, .failed run binding.id error]
        (by simp [Event.dispatchedRun?])

end

/-! ## Schedules and polls -/

theorem schedules_start (stage : Stage) (binding : Binding) (reason : RunReason)
    (id : BindingId) : schedules id (stage.start binding reason).history =
      schedules id stage.history ++
        if binding.id = id then [(stage.runCount + 1, reason)] else [] := by
  show schedules id (.scheduled _ _ _ :: stage.history) = _
  rw [schedules_cons, Event.schedule?]
  split <;> rfl

theorem playsFor_start (stage : Stage) (binding : Binding) (reason : RunReason)
    (id : BindingId) :
    playsFor id (stage.start binding reason).history = playsFor id stage.history :=
  List.countP_cons_of_neg (by simp [Event.playsFor])

theorem runsSinceEntry_start (stage : Stage) (binding : Binding) (reason : RunReason)
    (id : BindingId) :
    runsSinceEntry id (stage.start binding reason).history = runsSinceEntry id stage.history :=
  runsSinceEntry_append [.scheduled _ _ _] (by simp [Event.dispatchedRun?])

/-- A schedule takes a binding from one phase to another, if it is the one that the run
is scheduled for. -/
theorem schedule_entersOnce {id own : BindingId} {stage : Stage} (sound : Sound stage [])
    {phase : ViewState → List (RunId × RunReason) → Prop}
    (enters : EntersOnce id phase stage []) (reason : RunReason)
    (next : ∀ view scheduled, phase view scheduled → Phase view
      (scheduled ++ if own = id then [(stage.runCount + 1, reason)] else [])) :
    EntersOnce id Phase (stage.schedule own reason).1 [] := by
  cases found : stage.binding? own with
  | none =>
    rw [schedule_of_none found]
    refine ⟨enters.once, enters.unborn, enters.reasons, ?_, enters.plays⟩
    intro binding here same visible
    have different : own ≠ id := by
      rintro rfl
      have absent := List.find?_eq_none.mp found binding here
      simp [same] at absent
    have moved := next _ _ (enters.phase binding here same visible)
    rw [if_neg different, List.append_nil] at moved
    exact moved
  | some binding =>
    obtain ⟨-, rfl⟩ := mem_bindings_of_binding? found
    have scheduled := schedules_start stage binding reason id
    rw [schedule_eq found]
    refine (start_held sound found reason).advance_entersOnce ?_ reason ?_ _
    · refine ⟨enters.once, ?_, ?_, ?_, ?_⟩
      · intro unborn
        rw [playsFor_start]
        exact enters.unborn unborn
      · intro waiting here same
        rw [scheduled]
        exact List.mem_append_left _ (enters.reasons waiting here same)
      · intro other here same visible
        rw [scheduled]
        exact next _ _ (enters.phase other here same visible)
      · intro other here same visible
        rw [playsFor_start, runsSinceEntry_start]
        exact enters.plays other here same visible
    · intro same
      rw [scheduled, if_pos same]
      exact List.mem_append_right _ (List.mem_singleton.mpr rfl)

theorem pollRun_entersOnce {id : BindingId} {stage : Stage} {waiting : PendingRun}
    {queue : List PendingRun} (sound : Sound stage (waiting :: queue))
    (enters : EntersOnce id Phase stage (waiting :: queue)) (plays : Nat) :
    EntersOnce id Phase (pollRun (stage, plays) waiting).1 queue := by
  obtain ⟨binding, found, waits⟩ := sound.binding?_head
  rw [pollRun_eq found]
  refine (poll_held sound found).advance_entersOnce ?_ waiting.reason ?_ _
  · refine enters.congr rfl (Nat.le_refl _)
      (fun other here _ => ⟨other, here, rfl, rfl, fun _ kept => kept⟩) ?_ rfl rfl rfl
    exact fun other here =>
      ((List.sublist_cons_self waiting queue).append_left stage.pending).subset here
  · intro same
    exact enters.reasons waiting (List.mem_append_right _ List.mem_cons_self)
      (waits.id_eq.symm.trans same)

/-! ## Steps and operations -/

/-- A binding begins with nothing scheduled. -/
theorem bind_entersOnce_own {id : BindingId} {stage : Stage} (sound : Sound stage [])
    (recorded : Recorded stage (awaits (stage.pending ++ [])))
    (enters : EntersOnce id Phase stage []) (label : String) (animation : Animation)
    (chain : Chain) (own : (stage.bind label animation chain).2 = id) :
    EntersOnce id (fun view scheduled => view = .waiting ∧ scheduled = [])
      (stage.bind label animation chain).1 [] := by
  have binds := bind_binds stage label animation chain
  obtain ⟨subscriptions, bindings⟩ := binds.bindings
  obtain ⟨events, kinds, added⟩ := binds.adds
  have idle : ∀ event ∈ events, event.isIdle = true := fun event here =>
    Event.isIdle_of_isBeginning (kinds event here)
  -- the id is a new one, so neither a binding nor the history knows of it
  have unborn : stage.bindingCount < id.number := by
    rw [← own, binds.id_eq]
    exact Nat.lt_succ_self _
  have old : ∀ binding ∈ stage.bindings, binding.id ≠ id := by
    rintro binding here rfl
    exact Nat.not_lt_of_le (sound.numbered binding here) unborn
  have scheduled : schedules id (stage.bind label animation chain).1.history = [] := by
    have none := recorded.scheduledRuns_eq_nil unborn
    rw [scheduledRuns_eq_map] at none
    rw [added, schedules_append id fun event here => Event.isAside_of_isIdle (idle event here)]
    exact List.map_eq_nil_iff.mp none
  have since : runsSinceEntry id (stage.bind label animation chain).1.history = [] := by
    refine runsSinceEntry_of_not_entered ?_
    rw [Bool.eq_false_iff, ne_eq, any_isEntryOf, scheduled]
    simp
  have played : playsFor id (stage.bind label animation chain).1.history = 0 := by
    rw [added, playsFor_append id idle]
    exact enters.unborn unborn
  exact {
    once := by
      rw [binds.settings]
      exact enters.once
    unborn := fun _ => played
    reasons := by
      rw [binds.pending]
      intro waiting here same
      obtain ⟨binding, there, waits⟩ := sound.served waiting here
      exact (old binding there (waits.id_eq.trans same)).elim
    phase := by
      rw [bindings, scheduled]
      intro binding here same visible
      rcases List.mem_append.mp here with here | here
      · exact (old binding here same).elim
      · rw [List.mem_singleton.mp here] at visible ⊢
        exact ⟨if_pos (congrArg TriggerSet.visible visible), rfl⟩
    plays := by
      intro binding _ _ _
      rw [played, since]
      rfl }

/-- So a binding that begins leaves the phases of all others as they are. -/
theorem bind_entersOnce {id : BindingId} {stage : Stage} (sound : Sound stage [])
    (recorded : Recorded stage (awaits (stage.pending ++ [])))
    (enters : EntersOnce id Phase stage []) (label : String) (animation : Animation)
    (chain : Chain) :
    EntersOnce id
      (fun view scheduled =>
        if (stage.bind label animation chain).2 = id then view = .waiting ∧ scheduled = []
        else Phase view scheduled)
      (stage.bind label animation chain).1 [] := by
  by_cases own : (stage.bind label animation chain).2 = id
  · simp only [if_pos own]
    exact bind_entersOnce_own sound recorded enters label animation chain own
  · simp only [if_neg own]
    have binds := bind_binds stage label animation chain
    obtain ⟨subscriptions, bindings⟩ := binds.bindings
    refine enters.of_adds (fun _ => Event.isIdle_of_isBeginning) binds.adds
      binds.settings (binds.bindingCount ▸ Nat.le_succ _) ?_ ?_
    · rw [bindings]
      intro binding here same
      rcases List.mem_append.mp here with here | here
      · exact ⟨binding, here, rfl, rfl, fun _ kept => kept⟩
      · rw [List.mem_singleton.mp here] at same
        exact (own same).elim
    · rw [binds.pending]
      exact fun _ here => here

/-- A binding whose element enters the view waited for that. -/
theorem lookAt_entersOnce {id : BindingId} {stage : Stage} (sound : Sound stage [])
    (enters : EntersOnce id Phase stage []) {binding : Binding}
    (here : binding ∈ stage.bindings)
    (responds : respondsToView stage.settings binding.view = true) :
    EntersOnce id
      (fun view scheduled =>
        if binding.id = id then view = .entered ∧ ∃ first, scheduled = [(first, .initial)]
        else Phase view scheduled)
      (stage.lookAt binding) [] := by
  have looks := lookAt_looks stage binding
  refine enters.of_adds (fun _ => Event.isIdle_of_isEnding) looks.adds looks.settings
    (Nat.le_of_eq looks.bindingCount.symm) ?_ ?_
  · rw [looks.bindings]
    intro other there same
    obtain ⟨old, standing, rfl⟩ := List.mem_map.mp there
    by_cases entering : old.id = binding.id
    · have equal : old = binding :=
        List.inj_on_of_nodup_map sound.distinct standing here entering
      subst equal
      rw [if_pos rfl] at same ⊢
      refine ⟨old, standing, rfl, rfl, ?_⟩
      intro scheduled phase
      rw [if_pos same]
      rcases phase with ⟨-, first⟩ | ⟨entered, -⟩
      · exact ⟨rfl, first⟩
      · -- only the first entry counts
        rw [entered, respondsToView, enters.once] at responds
        cases responds
    · rw [if_neg entering] at same ⊢
      refine ⟨old, standing, rfl, rfl, ?_⟩
      intro scheduled phase
      rw [if_neg fun own => entering (same.trans own.symm)]
      exact phase
  · rw [looks.pending]
    exact fun _ here => here

theorem step_entersOnce {id : BindingId} {told : Option BindingId} (undisturbed : told ≠ some id)
    {before after : Stage} (step : Step told before after) (sound : Sound before [])
    (recorded : Recorded before (awaits (before.pending ++ [])))
    (enters : EntersOnce id Phase before []) : EntersOnce id Phase after [] := by
  cases step with
  | unbound passes =>
    refine enters.of_adds (fun _ => Event.isIdle_of_isUnbound) passes.adds passes.settings
      (Nat.le_of_eq passes.bindingCount.symm) ?_ ?_
    · rw [passes.bindings]
      exact fun binding here _ => ⟨binding, here, rfl, rfl, fun _ kept => kept⟩
    · rw [passes.pending]
      exact fun _ here => here
  | released chosen =>
    have releases := release_releases before chosen
    refine enters.of_adds (fun _ => Event.isIdle_of_isEnding) releases.adds releases.settings
      (Nat.le_of_eq releases.bindingCount.symm) ?_ ?_
    · rw [releases.bindings]
      exact fun binding here _ =>
        ⟨binding, (List.mem_filter.mp here).1, rfl, rfl, fun _ kept => kept⟩
    · rw [releases.pending]
      exact fun _ here => (List.filter_sublist.append_right []).subset here
  | installed label animation chain =>
    refine schedule_entersOnce (bind_sound sound label animation chain)
      (bind_entersOnce sound recorded enters label animation chain) .initial ?_
    intro view scheduled phase
    split at phase <;> rename_i own
    · obtain ⟨rfl, rfl⟩ := phase
      rw [if_pos own]
      exact .inl ⟨rfl, _, rfl⟩
    · rw [if_neg own, List.append_nil]
      exact phase
  | changed tells =>
    rename_i own
    -- a change of data must not reach the binding itself: it would schedule a run of its own
    have different : own ≠ id := fun same => undisturbed (same ▸ tells)
    refine schedule_entersOnce sound enters .sourceChanged ?_
    intro view scheduled phase
    rw [if_neg different, List.append_nil]
    exact phase
  | entered here responds =>
    rename_i binding
    rw [enter_eq]
    refine schedule_entersOnce (lookAt_sound sound binding)
      (lookAt_entersOnce sound enters here responds) .enteredView ?_
    intro view scheduled phase
    split at phase <;> rename_i own
    · obtain ⟨rfl, first, rfl⟩ := phase
      rw [if_pos own]
      exact .inr ⟨rfl, first, _, rfl⟩
    · rw [if_neg own, List.append_nil]
      exact phase
  | tornDown element gone =>
    exact enters.of_adds (fun _ (idle : Event.isIdle _ = true) => idle)
      ⟨[.tornDown element], by simp [Event.isIdle, Event.isAside], rfl⟩ rfl (Nat.le_refl _)
      (fun binding here _ => ⟨binding, here, rfl, rfl, fun _ kept => kept⟩) (fun _ here => here)

/-- No operation among some tells a binding that its data changed. -/
def Undisturbed (id : BindingId) : Stage → List Operation → Prop
  | _, [] => True
  | stage, operation :: rest =>
    stage.told? operation ≠ some id ∧ Undisturbed id (stage.perform operation) rest

instance Undisturbed.decidable (id : BindingId) :
    (stage : Stage) → (operations : List Operation) →
      Decidable (Undisturbed id stage operations)
  | _, [] => isTrue trivial
  | stage, operation :: rest =>
    have := Undisturbed.decidable id (stage.perform operation) rest
    inferInstanceAs (Decidable (_ ≠ some id ∧ Undisturbed id _ rest))

theorem performAll_entersOnce {id : BindingId} (operations : List Operation) {stage : Stage}
    (sound : Sound stage []) (recorded : Recorded stage (awaits (stage.pending ++ [])))
    (enters : EntersOnce id Phase stage []) (undisturbed : Undisturbed id stage operations) :
    EntersOnce id Phase (stage.performAll operations) [] := by
  induction operations generalizing stage with
  | nil => exact enters
  | cons operation rest ih =>
    refine ih (performAll_sound sound [operation]) (performAll_recorded sound recorded
      [operation]) ?_ undisturbed.2
    by_cases isTick : operation = .tick
    · subst isTick
      refine (foldl_pollRun_invariant
        (fun stage queue => Sound stage queue ∧ EntersOnce id Phase stage queue)
        (fun _ _ _ plays both => ⟨pollRun_sound both.1 plays,
          pollRun_entersOnce both.1 both.2 plays⟩)
        stage.pending (stage.takeUp, 0) ⟨takeUp_sound sound, ?_⟩).2
      exact enters.congr rfl (Nat.le_refl _)
        (fun binding here _ => ⟨binding, here, rfl, rfl, fun _ kept => kept⟩)
        (fun waiting here => List.mem_append_left _ here) rfl rfl rfl
    · refine (steps_invariant (fun stage => Sound stage [] ∧
        Recorded stage (awaits (stage.pending ++ [])) ∧ EntersOnce id Phase stage []) ?_
        (perform_steps stage sound.distinct operation isTick) ⟨sound, recorded, enters⟩).2.2
      intro before after step all
      exact ⟨step_sound step all.1, step_recorded step all.1 all.2.1,
        step_entersOnce undisturbed.1 step all.1 all.2.1 all.2.2⟩

/-! ## How often a binding is played -/

/-- Runs without repetition, all of which are among some others, are no more than these. -/
theorem length_le_of_subset {runs others : List RunId} (distinct : runs.Nodup)
    (among : runs ⊆ others) : runs.length ≤ others.length :=
  (List.subperm_of_subset distinct among).length_le

/-- Runs without repetition, all of which are one of two, are at most one unless they are
both. -/
theorem length_le_one_iff {runs : List RunId} {first entry : RunId} (distinct : runs.Nodup)
    (among : runs ⊆ [first, entry]) (different : first ≠ entry) :
    runs.length ≤ 1 ↔ ¬ (first ∈ runs ∧ entry ∈ runs) := by
  constructor
  · intro single both
    have pair : [first, entry] ⊆ runs := by simpa using both
    have two := length_le_of_subset (by simpa using different) pair
    exact Nat.not_succ_le_self 1 (Nat.le_trans two single)
  · intro notBoth
    by_cases isFirst : first ∈ runs
    · refine length_le_of_subset distinct (?_ : _ ⊆ [first])
      intro run here
      rcases List.mem_cons.mp (among here) with rfl | same
      · exact List.mem_singleton.mpr rfl
      · rw [List.mem_singleton.mp same] at here
        exact (notBoth ⟨isFirst, here⟩).elim
    · refine length_le_of_subset distinct (?_ : _ ⊆ [entry])
      intro run here
      rcases List.mem_cons.mp (among here) with rfl | same
      · exact (isFirst here).elim
      · exact same

/-- **An entry plays a binding once, except when its first run is late.**  For any
operations on a new stage where only first entries count, which never tell a binding that
its data changed: if the binding only waits for its element to enter the view, it was
played once by each of its runs that was dispatched since the entry.  These are two at
most, and they are two exactly if its first run is one of them and so is the run that was
scheduled for the entry. -/
theorem playsFor_le_one_iff (settings : Settings) (once : settings.inViewOnce = true)
    (data : Store) (source : HelperSupply) (operations : List Operation) (id : BindingId)
    (undisturbed : Undisturbed id (new settings data source) operations) :
    let stage := (new settings data source).performAll operations
    ∀ binding ∈ stage.bindings, binding.id = id →
      binding.animation.triggers = ⟨true, false⟩ →
        playsFor id stage.history = (runsSinceEntry id stage.history).length ∧
        playsFor id stage.history ≤ 2 ∧
        (playsFor id stage.history ≤ 1 ↔
          ¬ ∃ first entry, .scheduled first id .initial ∈ stage.history ∧
            .scheduled entry id .enteredView ∈ stage.history ∧
            first ∈ runsSinceEntry id stage.history ∧
            entry ∈ runsSinceEntry id stage.history) := by
  rintro stage binding here rfl visible
  have begun := new_sound settings data source
  have blank := new_recorded settings data source
  have recorded : Recorded stage (awaits (stage.pending ++ [])) :=
    performAll_recorded begun blank operations
  have enters : EntersOnce binding.id Phase stage [] := performAll_entersOnce operations begun
    blank (new_entersOnce once data source binding.id) undisturbed
  have counted := enters.plays binding here rfl visible
  have dispatched := runsSinceEntry_sublist binding.id stage.history
  have distinct : (runsSinceEntry binding.id stage.history).Nodup :=
    (List.nodup_append.mp (recorded.once binding.id)).1.sublist dispatched
  refine ⟨counted, ?_⟩
  rw [counted]
  simp only [← mem_schedules]
  rcases enters.phase binding here rfl visible with
    ⟨-, first, scheduled⟩ | ⟨-, first, entry, scheduled⟩
  · -- before the entry nothing was dispatched since
    have none : runsSinceEntry binding.id stage.history = [] := by
      refine runsSinceEntry_of_not_entered ?_
      rw [Bool.eq_false_iff, ne_eq, any_isEntryOf, scheduled]
      simp
    rw [none]
    simp
  · have among : runsSinceEntry binding.id stage.history ⊆ [first, entry] := by
      intro run since
      have known := recorded.dispatched _ run (dispatched.subset since)
      rw [scheduledRuns_eq_map, scheduled] at known
      exact known
    have earlier : first ≠ entry := by
      have ascending := recorded.ascending binding.id
      rw [scheduledRuns_eq_map, scheduled] at ascending
      exact Nat.ne_of_lt (List.rel_of_pairwise_cons ascending (List.mem_singleton.mpr rfl))
    refine ⟨length_le_of_subset distinct among, ?_⟩
    rw [length_le_one_iff distinct among earlier, scheduled]
    -- the runs that the binding's history tells of are known by their reasons
    simp only [List.mem_cons, Prod.mk.injEq, reduceCtorEq, and_false, and_true, or_false,
      false_or, List.not_mem_nil, exists_and_left, exists_eq_left]

/-! ## A helper that arrives after the entry -/

namespace LateSpring

/-- A stage whose helpers arrive with the first poll of any run. -/
def begun : Stage := .new .standard [[]] (Helper.builtinSource 1)

/-- A directive is applied that waits for the view. -/
def applied : Operation := .apply ⟨1⟩ ⟨none, ["in-view"], "{x: spring()}"⟩ [0]

/-- Its element enters the view. -/
def entered : Operation := .input (.enteredView ⟨1⟩)

end LateSpring

open LateSpring in
/-- Where the helper arrives before the entry, the binding is played once. -/
theorem played_once_on_late_entry :
    Settings.standard.inViewOnce = true ∧
      Undisturbed ⟨1⟩ begun [applied, .tick, entered, .tick] ∧
      playsFor ⟨1⟩ (begun.performAll [applied, .tick, entered, .tick]).history = 1 ∧
      ∃ binding ∈ (begun.performAll [applied, .tick, entered, .tick]).bindings,
        binding.id = ⟨1⟩ ∧ binding.animation.triggers = ⟨true, false⟩ ∧
        1 = (runsSinceEntry ⟨1⟩
          (begun.performAll [applied, .tick, entered, .tick]).history).length := by
  have undisturbed : Undisturbed ⟨1⟩ begun [applied, .tick, entered, .tick] := by
    decide +kernel
  have played : playsFor ⟨1⟩ (begun.performAll [applied, .tick, entered, .tick]).history = 1 := by
    decide +kernel
  have bound : ∃ binding ∈ (begun.performAll [applied, .tick, entered, .tick]).bindings,
      binding.id = ⟨1⟩ ∧ binding.animation.triggers = ⟨true, false⟩ := by
    decide +kernel
  obtain ⟨binding, here, own, visible⟩ := bound
  have counted := (playsFor_le_one_iff .standard rfl [[]] (Helper.builtinSource 1)
    [applied, .tick, entered, .tick] ⟨1⟩ undisturbed binding here own visible).1
  exact ⟨rfl, undisturbed, played, binding, here, own, visible, played.symm.trans counted⟩

open LateSpring in
/-- **The one entry can play a binding twice.**  The first run still waits for the helper
when the element enters the view, and so does the run for the entry; a tick dispatches
both. -/
theorem played_twice_on_entry :
    Settings.standard.inViewOnce = true ∧
      Undisturbed ⟨1⟩ begun [applied, entered, .tick] ∧
      (begun.performAll [applied, entered, .tick]).bindings.map
        (fun binding => (binding.id, binding.animation.triggers)) = [(⟨1⟩, ⟨true, false⟩)] ∧
      playsFor ⟨1⟩ (begun.performAll [applied, entered, .tick]).history = 2 := by
  decide +kernel

end Stage

end Choreography
