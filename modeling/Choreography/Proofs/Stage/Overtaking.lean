import Mathlib.Data.List.Sort
import Choreography.Helper.Catalogue
import Choreography.Proofs.Stage.Latest
import Choreography.Proofs.Stage.Order

/-!
# Runs that go ahead

A run that is scheduled while another run of its binding waits goes ahead of it exactly
if that one is overdue (`dispatched_schedule_iff`).  The overdue run comes to its end in
the next tick (`tick_overdue`), so it is dispatched last although it read older data.

* `dispatched_in_order` — where no tick leaves a run overdue the order is kept and a
  binding holds what its latest run resolved; where one does, the next run goes ahead;
* `overtaken` — a helper that two runs share arrives with the second of them in one tick.
-/

namespace Choreography

namespace Stage

/-- What a run that goes on adds to the record: it is dispatched or it fails, unless it
waits. -/
theorem advance_runs {stage : Stage} {binding : Binding}
    (found : stage.binding? binding.id = some binding) (run : RunId) (reason : RunReason)
    (outcome : Except ResolveError Resolution) (id : BindingId) :
    ∃ done lost,
      dispatchedRuns id (stage.advance run binding reason outcome).1.history =
        dispatchedRuns id stage.history ++ done ∧
      failedRuns id (stage.advance run binding reason outcome).1.history =
        failedRuns id stage.history ++ lost ∧
      (binding.id = id → (∀ options, outcome ≠ .ok (.pending options)) →
        done ++ lost = [run]) ∧
      (run ∈ done → ∃ values, outcome = .ok (.ready values)) := by
  match outcome with
  | .ok (.ready values) =>
    have dispatches := dispatch_dispatches found run reason values
    refine ⟨if binding.id = id then [run] else [], [], dispatches.dispatchedRuns_eq id, ?_, ?_,
      fun _ => ⟨values, rfl⟩⟩
    · rw [List.append_nil]
      exact dispatches.failedRuns_eq id
    · intro own _
      rw [if_pos own, List.append_nil]
  | .ok (.pending options) =>
    refine ⟨[], [], (List.append_nil _).symm, (List.append_nil _).symm, ?_, nofun⟩
    exact fun _ ends => (ends options rfl).elim
  | .error error =>
    refine ⟨[], if binding.id = id then [run] else [], ?_,
      failedRuns_fail stage run _ _ error id, ?_, nofun⟩
    · rw [List.append_nil]
      exact dispatchedRuns_fail stage run _ _ error id
    · intro own _
      rw [if_pos own, List.nil_append]

/-! ## A run is scheduled while another waits -/

/-- Resolving the template of a binding does not wait while a waiting run of it is
overdue. -/
theorem Waits.not_pending {stage : Stage} {binding : Binding} {waiting : PendingRun}
    (waits : Waits stage.loader binding waiting) (overdue : stage.Overdue waiting)
    (options : PendingOptions) : (stage.resolve binding).2 ≠ .ok (.pending options) := by
  intro pending
  obtain ⟨fits, isOpen⟩ := fits_of_resolve pending
  obtain ⟨name, awaited⟩ := List.exists_mem_of_ne_nil _ isOpen
  -- what the waiting run does not wait for has settled already, and so has what it waits for
  have settled : stage.loader.hasSettled name = true :=
    (waits.serves.settled name (fits.serves.asked name awaited).1).elim (overdue name) id
  have still := (resolve_grows stage binding).precedes.hasSettled settled
  rw [fits.fresh name awaited] at still
  cases still

/-- **A scheduled run that does not fail goes ahead of one that waits exactly if that
one is overdue.** -/
theorem dispatched_schedule_iff {stage : Stage} (sound : Sound stage [])
    (recorded : Recorded stage (awaits (stage.pending ++ []))) {waiting : PendingRun}
    (here : waiting ∈ stage.pending) (reason : RunReason)
    (unfailed : stage.runCount + 1 ∉
      failedRuns waiting.binding (stage.schedule waiting.binding reason).1.history) :
    stage.runCount + 1 ∈
        dispatchedRuns waiting.binding (stage.schedule waiting.binding reason).1.history ↔
      stage.Overdue waiting := by
  obtain ⟨binding, there, waits⟩ := sound.served waiting (List.mem_append_left _ here)
  have found := binding?_of_mem sound.distinct there
  rw [← waits.id_eq] at unfailed ⊢
  rw [schedule_eq found] at unfailed ⊢
  obtain ⟨done, lost, dispatched, failed, ends, ready⟩ := advance_runs
    (start_held sound found reason).found (stage.runCount + 1) reason
    (stage.resolve binding).2 binding.id
  rw [failed] at unfailed
  rw [dispatched, dispatchedRuns_start]
  constructor
  · intro now
    rcases List.mem_append.mp now with before | now
    · -- the number of the run is greater than all that are on record
      have bound := (recorded.bounded _ _ (recorded.dispatched _ _ before)).1
      exact (Nat.not_succ_le_self _ bound).elim
    · obtain ⟨values, outcome⟩ := ready now
      have late : (stage.start binding reason).Overdue waiting :=
        waits.overdue (Template.settled_of_resolve (Prod.ext rfl outcome))
      exact overdue_of_grows waits (resolve_grows stage binding) late
  · intro overdue
    have single := ends rfl (waits.not_pending overdue)
    have either : stage.runCount + 1 ∈ done ++ lost := single ▸ List.mem_singleton.mpr rfl
    rcases List.mem_append.mp either with now | never
    · exact List.mem_append_right _ now
    · exact (unfailed (List.mem_append_right _ never)).elim

/-- A schedule leaves waiting what waited, and overdue what was overdue. -/
theorem schedule_overdue {stage : Stage} (sound : Sound stage []) {waiting : PendingRun}
    (here : waiting ∈ stage.pending) (overdue : stage.Overdue waiting) (id : BindingId)
    (reason : RunReason) :
    waiting ∈ (stage.schedule id reason).1.pending ∧
      (stage.schedule id reason).1.Overdue waiting := by
  cases found : stage.binding? id with
  | none =>
    rw [schedule_of_none found]
    exact ⟨here, overdue⟩
  | some binding =>
    obtain ⟨-, rfl⟩ := mem_bindings_of_binding? found
    have still := (start_held sound found reason).found
    rw [schedule_eq found]
    refine ⟨mem_pending_advance still _ _ _ here, overdue.of_precedes ?_⟩
    rw [loader_advance still]
    exact (resolve_grows stage binding).precedes

/-! ## The end of an overdue run -/

/-- What a tick does with an overdue run: it comes up to be polled, and then it is
dispatched after those that were dispatched before, or fails. -/
def ComesUp (waiting : PendingRun) (before : List RunId) (stage : Stage)
    (queue : List PendingRun) : Prop :=
  ∃ more, dispatchedRuns waiting.binding stage.history = before ++ more ∧
    ((waiting ∈ queue ∧ stage.Overdue waiting) ∨
      waiting.run ∈ failedRuns waiting.binding stage.history ∨ waiting.run ∈ more)

theorem pollRun_comesUp {waiting polled : PendingRun} {before : List RunId} {stage : Stage}
    {queue : List PendingRun} (sound : Sound stage (polled :: queue))
    (comesUp : ComesUp waiting before stage (polled :: queue)) (plays : Nat) :
    ComesUp waiting before (pollRun (stage, plays) polled).1 queue := by
  obtain ⟨more, history, comes⟩ := comesUp
  obtain ⟨binding, found, waits⟩ := sound.binding?_head
  have held := poll_held sound found
  obtain ⟨done, lost, dispatched, failed, ends, -⟩ := advance_runs held.found polled.run
    polled.reason (polled.options.poll stage.loader).2 waiting.binding
  rw [pollRun_eq found]
  refine ⟨more ++ done, ?_, ?_⟩
  · rw [dispatched, ← List.append_assoc, ← history]
    rfl
  · rw [failed]
    rcases comes with ⟨waitsFor, overdue⟩ | never | now
    · rcases List.mem_cons.mp waitsFor with rfl | later
      · -- its turn has come, and nothing it waits for is still on its way
        have single := ends waits.id_eq (PendingOptions.not_pending_of_settled overdue)
        have either : waiting.run ∈ done ++ lost := single ▸ List.mem_singleton.mpr rfl
        rcases List.mem_append.mp either with now | never
        · exact .inr (.inr (List.mem_append_right _ now))
        · exact .inr (.inl (List.mem_append_right _ never))
      · refine .inl ⟨later, overdue.of_precedes ?_⟩
        rw [loader_advance held.found]
        exact PendingOptions.poll_precedes stage.loader polled.options
    · exact .inr (.inl (List.mem_append_left _ never))
    · exact .inr (.inr (List.mem_append_left _ now))

/-- An overdue run comes to its end in the next tick. -/
theorem tick_overdue {stage : Stage} (sound : Sound stage []) {waiting : PendingRun}
    (here : waiting ∈ stage.pending) (overdue : stage.Overdue waiting) :
    ∃ more, dispatchedRuns waiting.binding stage.tick.1.history =
        dispatchedRuns waiting.binding stage.history ++ more ∧
      (waiting.run ∈ failedRuns waiting.binding stage.tick.1.history ∨
        waiting.run ∈ more) := by
  obtain ⟨-, more, history, comes⟩ := foldl_pollRun_invariant
    (fun after queue => Sound after queue ∧
      ComesUp waiting (dispatchedRuns waiting.binding stage.history) after queue)
    (fun _ _ _ plays both => ⟨pollRun_sound both.1 plays,
      pollRun_comesUp both.1 both.2 plays⟩)
    stage.pending (stage.takeUp, 0)
    ⟨takeUp_sound sound, [], (List.append_nil _).symm, .inl ⟨here, overdue⟩⟩
  exact ⟨more, history, comes.resolve_left fun both => List.not_mem_nil both.1⟩

/-! ## The order of dispatches -/

/-- **Where no tick leaves a run overdue, runs take effect in their order.**  For any
operations on a new stage that leave no run of a binding overdue after a tick, its runs
are dispatched in the order of their schedule, and once none of them waits each has been
dispatched or has failed, and the binding shows what the latest one resolved.

The condition is exact: on every stage that operations lead to, a run that is scheduled
while an earlier one waits, and does not fail, goes ahead of it exactly if that one is
overdue; in the next tick the overdue run fails, or it is dispatched after the other. -/
theorem dispatched_in_order (settings : Settings) (data : Store) (source : HelperSupply)
    (operations : List Operation) (id : BindingId) :
    let stage := (new settings data source).performAll operations
    (Punctual id (new settings data source) operations →
      (scheduledRuns id stage.history).Pairwise (· < ·) ∧
      (dispatchedRuns id stage.history).Sublist (scheduledRuns id stage.history) ∧
      ∀ binding ∈ stage.bindings, binding.id = id →
        (∀ waiting ∈ stage.pending, waiting.binding ≠ id) →
          (∀ run ∈ scheduledRuns id stage.history,
            run ∈ dispatchedRuns id stage.history ∨ run ∈ failedRuns id stage.history) ∧
          stage.ShowsLatest binding) ∧
    ∀ waiting ∈ stage.pending, waiting.binding = id → ∀ reason,
      let run := stage.runCount + 1
      let after := (stage.schedule id reason).1
      run ∉ failedRuns id after.history →
        waiting.run < run ∧
        (run ∈ dispatchedRuns id after.history ↔ stage.Overdue waiting) ∧
        (stage.Overdue waiting →
          waiting.run ∈ failedRuns id after.tick.1.history ∨
            ∃ early late, dispatchedRuns id after.tick.1.history = early ++ late ∧
              run ∈ early ∧ waiting.run ∈ late) := by
  intro stage
  have begun := new_sound settings data source
  have blank := new_recorded settings data source
  have sound : Sound stage [] := performAll_sound begun operations
  have recorded : Recorded stage (awaits (stage.pending ++ [])) :=
    performAll_recorded begun blank operations
  have current : Current stage :=
    performAll_current begun blank (new_current settings data source) operations
  refine ⟨?_, ?_⟩
  · intro punctual
    obtain ⟨inOrder, -⟩ := performAll_inOrder operations begun blank
      ⟨⟨List.Pairwise.nil, nofun⟩, nofun⟩ punctual
    refine ⟨recorded.ascending id, ?_, ?_⟩
    · -- both lists ascend, so that one is contained in the other makes it a sublist
      exact List.sublist_of_subperm_of_pairwise
        (List.subperm_of_subset inOrder.ascending.nodup (recorded.dispatched id))
        inOrder.ascending (recorded.ascending id)
    · rintro binding here rfl nothing
      refine ⟨?_, current.showsLatest here inOrder.ascending⟩
      intro run scheduled
      rcases recorded.accounted binding here run scheduled with
        done | lost | ⟨waiting, there, -, same⟩
      · exact .inl done
      · exact .inr lost
      · rw [List.append_nil] at there
        exact (nothing waiting there same).elim
  · rintro waiting here rfl reason run after unfailed
    have exact := dispatched_schedule_iff sound recorded here reason unfailed
    refine ⟨Nat.lt_succ_of_le (sound.counted waiting (List.mem_append_left _ here)), exact, ?_⟩
    intro overdue
    obtain ⟨still, late⟩ := schedule_overdue sound here overdue waiting.binding reason
    obtain ⟨more, history, comes⟩ :=
      tick_overdue (schedule_sound sound waiting.binding reason) still late
    exact comes.imp id fun now => ⟨_, more, history, exact.mpr overdue, now⟩

/-! ## A helper that two runs share -/

namespace SharedSpring

/-- A stage whose helpers arrive with one of the first polls of any run. -/
def begun (latency : Nat) : Stage :=
  .new .standard [[("k", .number (Number.ofNat 1))]] (Helper.builtinSource latency)

/-- A directive is applied that passes data to a helper. -/
def applied : Operation := .apply ⟨1⟩ ⟨none, [], "{x: spring(k)}"⟩ [0]

/-- The directive is applied and its data changes before the helper has arrived, and two
ticks follow. -/
def operations : List Operation :=
  [applied, .write 0 "k" (.number (Number.ofNat 2)), .input (.sourceChanged ⟨1⟩), .tick, .tick]

/-- The stage after the first tick, where the second poll brings the helper. -/
def late : Stage := (begun 2).performAll (operations.take 4)

/-- The number that the helper was given for what the binding holds. -/
def stiffness? (stage : Stage) : Option Number := do
  let binding ← stage.binding? ⟨1⟩
  let options ← binding.options
  let value ← Fields.get? options "x"
  let stiffness ← value.field? "stiffness"
  stiffness.number?

end SharedSpring

open SharedSpring in
/-- The order is kept where the third poll brings the helper, since the first run is the
first to see it.  Where the second one does, a run that is scheduled after the first tick
goes ahead of the first run. -/
theorem dispatched_in_order_of_third_poll :
    (Punctual ⟨1⟩ (begun 3) operations ∧
      (dispatchedRuns ⟨1⟩ ((begun 3).performAll operations).history).Sublist
        (scheduledRuns ⟨1⟩ ((begun 3).performAll operations).history) ∧
      ∃ binding ∈ ((begun 3).performAll operations).bindings,
        ((begun 3).performAll operations).ShowsLatest binding) ∧
    ∃ waiting ∈ late.pending,
      late.runCount + 1 ∈ dispatchedRuns waiting.binding
        (late.schedule waiting.binding .sourceChanged).1.history := by
  refine ⟨?_, ?_⟩
  · have punctual : Punctual ⟨1⟩ (begun 3) operations := by decide +kernel
    have bound : ∃ binding ∈ ((begun 3).performAll operations).bindings,
        binding.id = ⟨1⟩ := by decide +kernel
    have nothing : ∀ waiting ∈ ((begun 3).performAll operations).pending,
        waiting.binding ≠ ⟨1⟩ := by decide +kernel
    obtain ⟨binding, here, own⟩ := bound
    obtain ⟨-, sublist, shows⟩ := (dispatched_in_order .standard
      [[("k", .number (Number.ofNat 1))]] (Helper.builtinSource 3) operations ⟨1⟩).1 punctual
    exact ⟨punctual, sublist, binding, here, (shows binding here own nothing).2⟩
  · have waits : ∃ waiting ∈ late.pending,
        waiting.binding = ⟨1⟩ ∧ late.Overdue waiting := by decide +kernel
    have unfailed : late.runCount + 1 ∉
        failedRuns ⟨1⟩ (late.schedule ⟨1⟩ .sourceChanged).1.history := by decide +kernel
    obtain ⟨waiting, here, own, overdue⟩ := waits
    have ahead := (dispatched_in_order .standard [[("k", .number (Number.ofNat 1))]]
      (Helper.builtinSource 2) (operations.take 4) ⟨1⟩).2
    have folded : (new .standard [[("k", .number (Number.ofNat 1))]]
      (Helper.builtinSource 2)).performAll (operations.take 4) = late := rfl
    rw [folded] at ahead
    refine ⟨waiting, here, ?_⟩
    rw [own]
    exact (ahead waiting here own .sourceChanged unfailed).2.1.mpr overdue

open SharedSpring in
/-- **The second run can be dispatched before the first.**  The poll of the second run
brings the helper, and the first is dispatched a tick later, so in the end the binding
holds what was read before the data changed. -/
theorem overtaken :
    scheduledRuns ⟨1⟩ ((begun 2).performAll operations).history = [1, 2] ∧
      dispatchedRuns ⟨1⟩ ((begun 2).performAll operations).history = [2, 1] ∧
      ((begun 2).performAll operations).pending.isEmpty = true ∧
      stiffness? ((begun 2).performAll operations) = some (Number.ofNat 1) := by
  decide +kernel

end Stage

end Choreography
