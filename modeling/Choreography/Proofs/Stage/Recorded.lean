import Choreography.Proofs.Stage.Sound

/-!
# Runs on record

The history knows every run: it was scheduled once, its number is greater than those
scheduled before it, and of a binding in force it was dispatched, has failed or still
waits, and is only one of these (`performAll_recorded`).
-/

namespace Choreography

namespace Stage

/-- Whether some runs have one with a number and a binding among them. -/
def awaits (runs : List PendingRun) (run : RunId) (id : BindingId) : Prop :=
  ∃ waiting ∈ runs, waiting.run = run ∧ waiting.binding = id

/-- A stage whose history tells of all runs, given which ones have not come to an end. -/
structure Recorded (stage : Stage) (waits : RunId → BindingId → Prop) : Prop where
  ascending : ∀ id, (scheduledRuns id stage.history).Pairwise (· < ·)
  bounded : ∀ id, ∀ run ∈ scheduledRuns id stage.history,
    run ≤ stage.runCount ∧ id.number ≤ stage.bindingCount
  dispatched : ∀ id, ∀ run ∈ dispatchedRuns id stage.history,
    run ∈ scheduledRuns id stage.history
  failed : ∀ id, ∀ run ∈ failedRuns id stage.history, run ∈ scheduledRuns id stage.history
  once : ∀ id, (dispatchedRuns id stage.history ++ failedRuns id stage.history).Nodup
  waiting : ∀ run id, waits run id → run ∈ scheduledRuns id stage.history ∧
    run ∉ dispatchedRuns id stage.history ∧ run ∉ failedRuns id stage.history
  accounted : ∀ binding ∈ stage.bindings, ∀ run ∈ scheduledRuns binding.id stage.history,
    run ∈ dispatchedRuns binding.id stage.history ∨
      run ∈ failedRuns binding.id stage.history ∨ waits run binding.id

theorem new_recorded (settings : Settings) (data : Store) (source : HelperSupply) :
    Recorded (new settings data source) (awaits []) where
  ascending := fun _ => List.Pairwise.nil
  bounded := nofun
  dispatched := nofun
  failed := nofun
  once := fun _ => List.nodup_nil
  waiting := by
    rintro run id ⟨waiting, here, -⟩
    cases here
  accounted := nofun

/-- What changes nothing about runs keeps the record. -/
theorem Recorded.congr {stage after : Stage} {waits still : RunId → BindingId → Prop}
    (recorded : Recorded stage waits)
    (bindings : ∀ binding ∈ after.bindings, (∃ old ∈ stage.bindings, old.id = binding.id) ∨
      scheduledRuns binding.id stage.history = [])
    (runCount : stage.runCount ≤ after.runCount)
    (bindingCount : stage.bindingCount ≤ after.bindingCount)
    (adds : ∃ events, (∀ event ∈ events, event.isAside = true) ∧
      after.history = events ++ stage.history)
    (fewer : ∀ run id, still run id → waits run id)
    (kept : ∀ binding ∈ after.bindings, ∀ run, waits run binding.id → still run binding.id) :
    Recorded after still := by
  obtain ⟨events, asides, added⟩ := adds
  have scheduled (id : BindingId) :
      scheduledRuns id after.history = scheduledRuns id stage.history := by
    rw [added, scheduledRuns_append id asides]
  have dispatched (id : BindingId) :
      dispatchedRuns id after.history = dispatchedRuns id stage.history := by
    rw [added, dispatchedRuns_append id asides]
  have failed (id : BindingId) :
      failedRuns id after.history = failedRuns id stage.history := by
    rw [added, failedRuns_append id asides]
  exact {
    ascending := by
      intro id
      rw [scheduled]
      exact recorded.ascending id
    bounded := by
      intro id run here
      rw [scheduled] at here
      obtain ⟨first, second⟩ := recorded.bounded id run here
      exact ⟨Nat.le_trans first runCount, Nat.le_trans second bindingCount⟩
    dispatched := by
      intro id run here
      rw [dispatched] at here
      rw [scheduled]
      exact recorded.dispatched id run here
    failed := by
      intro id run here
      rw [failed] at here
      rw [scheduled]
      exact recorded.failed id run here
    once := by
      intro id
      rw [dispatched, failed]
      exact recorded.once id
    waiting := by
      intro run id waits
      rw [scheduled, dispatched, failed]
      exact recorded.waiting run id (fewer run id waits)
    accounted := by
      intro binding here run scheduledRun
      rw [scheduled] at scheduledRun
      rw [dispatched, failed]
      rcases bindings binding here with ⟨old, there, same⟩ | new
      · rw [← same] at scheduledRun ⊢
        rcases recorded.accounted old there run scheduledRun with ended | ended | waits
        · exact .inl ended
        · exact .inr (.inl ended)
        · rw [same] at waits ⊢
          exact .inr (.inr (kept binding here run waits))
      · -- a binding that is new has no runs on record
        rw [new] at scheduledRun
        cases scheduledRun }

/-- Nothing is on record of a binding whose number was not given out. -/
theorem Recorded.scheduledRuns_eq_nil {stage : Stage} {waits : RunId → BindingId → Prop}
    (recorded : Recorded stage waits) {id : BindingId}
    (unborn : stage.bindingCount < id.number) : scheduledRuns id stage.history = [] := by
  refine List.eq_nil_iff_forall_not_mem.mpr ?_
  intro run scheduled
  exact Nat.not_lt_of_le (recorded.bounded id run scheduled).2 unborn

theorem Recorded.dispatchedRuns_eq_nil {stage : Stage} {waits : RunId → BindingId → Prop}
    (recorded : Recorded stage waits) {id : BindingId}
    (unborn : stage.bindingCount < id.number) : dispatchedRuns id stage.history = [] := by
  refine List.eq_nil_iff_forall_not_mem.mpr ?_
  intro run dispatched
  have scheduled := recorded.dispatched id run dispatched
  rw [recorded.scheduledRuns_eq_nil unborn] at scheduled
  cases scheduled

/-! ## The end of a run -/

section

variable {run : RunId} {binding : Binding} {resolved : Fields Value} {before after : Stage}

theorem Dispatches.scheduledRuns_eq (dispatches : Dispatches run binding resolved before after)
    (id : BindingId) : scheduledRuns id after.history = scheduledRuns id before.history := by
  obtain ⟨late, early, asides, earlier, added⟩ := dispatches.exists_asides
  rw [added, scheduledRuns_append id asides, scheduledRuns_cons, scheduledRuns_append id earlier]
  exact List.append_nil _

theorem Dispatches.failedRuns_eq (dispatches : Dispatches run binding resolved before after)
    (id : BindingId) : failedRuns id after.history = failedRuns id before.history := by
  obtain ⟨late, early, asides, earlier, added⟩ := dispatches.exists_asides
  rw [added, failedRuns_append id asides, failedRuns_cons, failedRuns_append id earlier]
  exact List.append_nil _

/-- A dispatch adds its run to the dispatched ones of its binding. -/
theorem Dispatches.dispatchedRuns_eq (dispatches : Dispatches run binding resolved before after)
    (id : BindingId) :
    dispatchedRuns id after.history =
      dispatchedRuns id before.history ++ if binding.id = id then [run] else [] := by
  obtain ⟨late, early, asides, earlier, added⟩ := dispatches.exists_asides
  rw [added, dispatchedRuns_append id asides, dispatchedRuns_cons,
    dispatchedRuns_append id earlier, Event.dispatchedRun?]
  split <;> rfl

end

theorem scheduledRuns_fail (stage : Stage) (run : RunId) (own : BindingId) (label : String)
    (error : ResolveError) (id : BindingId) :
    scheduledRuns id (stage.fail run own label error).history =
      scheduledRuns id stage.history := by
  show scheduledRuns id (.reported _ :: .failed run own error :: stage.history) = _
  rw [scheduledRuns_cons, scheduledRuns_cons]
  exact (List.append_nil _).trans (List.append_nil _)

theorem dispatchedRuns_fail (stage : Stage) (run : RunId) (own : BindingId) (label : String)
    (error : ResolveError) (id : BindingId) :
    dispatchedRuns id (stage.fail run own label error).history =
      dispatchedRuns id stage.history := by
  show dispatchedRuns id (.reported _ :: .failed run own error :: stage.history) = _
  rw [dispatchedRuns_cons, dispatchedRuns_cons]
  exact (List.append_nil _).trans (List.append_nil _)

/-- A failure adds its run to the failed ones of its binding. -/
theorem failedRuns_fail (stage : Stage) (run : RunId) (own : BindingId) (label : String)
    (error : ResolveError) (id : BindingId) :
    failedRuns id (stage.fail run own label error).history =
      failedRuns id stage.history ++ if own = id then [run] else [] := by
  show failedRuns id (.reported _ :: .failed run own error :: stage.history) = _
  rw [failedRuns_cons, failedRuns_cons]
  refine (List.append_nil _).trans ?_
  rw [Event.failedRun?]
  split <;> rfl

/-- The runs that have not come to an end while one of them goes on. -/
def heldOr (run : RunId) (id : BindingId) (runs : List PendingRun) :
    RunId → BindingId → Prop :=
  fun other binding => (other = run ∧ binding = id) ∨ awaits runs other binding

/-- Up to their order, the runs that have ended are the one that ends now, in one of two ways,
and those before it. -/
theorem ended_perm {run : RunId} {done lost : List RunId} (single : done ++ lost = [run])
    (dispatched failed : List RunId) :
    ((dispatched ++ done) ++ (failed ++ lost)).Perm (run :: (dispatched ++ failed)) := by
  rcases List.append_eq_singleton_iff.mp single with ⟨rfl, rfl⟩ | ⟨rfl, rfl⟩
  · rw [List.append_nil, ← List.append_assoc]
    exact List.perm_append_singleton _ _
  · rw [List.append_nil, List.append_assoc, List.singleton_append]
    exact List.perm_middle

/-- A run that comes to its end, in one of two ways, goes on record as ended. -/
theorem Recorded.ended {stage after : Stage} {run : RunId} {own : BindingId}
    {runs : List PendingRun} {done lost : List RunId}
    (recorded : Recorded stage (heldOr run own runs))
    (apart : ∀ other id, awaits runs other id → other ≠ run) (single : done ++ lost = [run])
    (bindings : ∀ binding ∈ after.bindings, ∃ old ∈ stage.bindings, old.id = binding.id)
    (runCount : after.runCount = stage.runCount)
    (bindingCount : after.bindingCount = stage.bindingCount)
    (scheduled : ∀ id, scheduledRuns id after.history = scheduledRuns id stage.history)
    (dispatched : ∀ id, dispatchedRuns id after.history =
      dispatchedRuns id stage.history ++ if own = id then done else [])
    (failed : ∀ id, failedRuns id after.history =
      failedRuns id stage.history ++ if own = id then lost else []) :
    Recorded after (awaits runs) := by
  obtain ⟨scheduledHere, undispatched, unfailed⟩ := recorded.waiting run own (.inl ⟨rfl, rfl⟩)
  have onlyDone : ∀ other ∈ done, other = run := fun other here =>
    List.mem_singleton.mp (single ▸ List.mem_append_left lost here)
  have onlyLost : ∀ other ∈ lost, other = run := fun other here =>
    List.mem_singleton.mp (single ▸ List.mem_append_right done here)
  exact {
    ascending := by
      intro id
      rw [scheduled]
      exact recorded.ascending id
    bounded := by
      intro id other here
      rw [scheduled] at here
      rw [runCount, bindingCount]
      exact recorded.bounded id other here
    dispatched := by
      intro id other here
      rw [dispatched, List.mem_append, List.mem_ite_nil_right] at here
      rw [scheduled]
      rcases here with before | ⟨rfl, now⟩
      · exact recorded.dispatched id other before
      · exact onlyDone other now ▸ scheduledHere
    failed := by
      intro id other here
      rw [failed, List.mem_append, List.mem_ite_nil_right] at here
      rw [scheduled]
      rcases here with before | ⟨rfl, now⟩
      · exact recorded.failed id other before
      · exact onlyLost other now ▸ scheduledHere
    once := by
      intro id
      rw [dispatched, failed]
      split
      · rename_i same
        subst same
        -- a run that goes on is not among those that have ended
        refine (ended_perm single _ _).nodup_iff.mpr
          (List.nodup_cons.mpr ⟨?_, recorded.once own⟩)
        rw [List.mem_append]
        exact not_or.mpr ⟨undispatched, unfailed⟩
      · rw [List.append_nil, List.append_nil]
        exact recorded.once id
    waiting := by
      intro other id waits
      obtain ⟨wasScheduled, notDispatched, notFailed⟩ := recorded.waiting other id (.inr waits)
      have different := apart other id waits
      rw [scheduled, dispatched, failed, List.mem_append, List.mem_append,
        List.mem_ite_nil_right, List.mem_ite_nil_right]
      refine ⟨wasScheduled, not_or.mpr ⟨notDispatched, ?_⟩, not_or.mpr ⟨notFailed, ?_⟩⟩
      · exact fun now => different (onlyDone other now.2)
      · exact fun now => different (onlyLost other now.2)
    accounted := by
      intro binding here number wasScheduled
      obtain ⟨old, there, same⟩ := bindings binding here
      rw [scheduled, ← same] at wasScheduled
      rw [dispatched, failed, ← same, List.mem_append, List.mem_append]
      rcases recorded.accounted old there number wasScheduled with
        ended | ended | ⟨rfl, rfl⟩ | waits
      · exact .inl (.inl ended)
      · exact .inr (.inl (.inl ended))
      · -- this is the run that has come to its end now
        rw [if_pos rfl, if_pos rfl]
        have either : number ∈ done ++ lost := single ▸ List.mem_singleton.mpr rfl
        rcases List.mem_append.mp either with here | here
        · exact .inl (.inr here)
        · exact .inr (.inl (.inr here))
      · exact .inr (.inr waits) }

/-- A run that waits in turn is the one that goes on next, or one of the others. -/
theorem awaits_middle {waiting : PendingRun} {polled unpolled : List PendingRun} {run : RunId}
    {id : BindingId} :
    awaits (polled ++ waiting :: unpolled) run id ↔
      heldOr waiting.run waiting.binding (polled ++ unpolled) run id := by
  have among {entry : PendingRun} : entry ∈ polled ++ waiting :: unpolled ↔
      entry = waiting ∨ entry ∈ polled ++ unpolled :=
    List.perm_middle.mem_iff.trans List.mem_cons
  constructor
  · rintro ⟨entry, here, rfl, rfl⟩
    rcases among.mp here with rfl | there
    · exact .inl ⟨rfl, rfl⟩
    · exact .inr ⟨entry, there, rfl, rfl⟩
  · rintro (⟨rfl, rfl⟩ | ⟨entry, there, rfl, rfl⟩)
    · exact ⟨waiting, among.mpr (.inl rfl), rfl, rfl⟩
    · exact ⟨entry, among.mpr (.inr there), rfl, rfl⟩

/-- A run that goes on is dispatched, fails or waits on, and the record says so. -/
theorem Held.advance_recorded {stage : Stage} {run : RunId} {binding : Binding}
    {queue : List PendingRun} (held : Held stage run binding queue)
    (recorded : Recorded stage (heldOr run binding.id (stage.pending ++ queue)))
    (reason : RunReason) (outcome : Except ResolveError Resolution) :
    Recorded (stage.advance run binding reason outcome).1
      (awaits ((stage.advance run binding reason outcome).1.pending ++ queue)) := by
  have apart : ∀ other id, awaits (stage.pending ++ queue) other id → other ≠ run := by
    rintro other id ⟨waiting, here, rfl, -⟩ same
    rcases List.mem_append.mp here with here | here
    · exact Nat.ne_of_lt (held.later waiting here) same
    · exact Nat.ne_of_gt (held.earlier waiting here) same
  match outcome with
  | .ok (.ready resolved) =>
    have dispatches := dispatch_dispatches held.found run reason resolved
    obtain ⟨change, touches, -, changed⟩ := dispatches.bindings
    show Recorded (stage.dispatch run binding.id reason resolved).1
      (awaits ((stage.dispatch run binding.id reason resolved).1.pending ++ queue))
    rw [dispatches.keeps.pending]
    refine recorded.ended apart (List.append_nil [run]) ?_ dispatches.keeps.runCount
      dispatches.keeps.bindingCount dispatches.scheduledRuns_eq dispatches.dispatchedRuns_eq ?_
    · intro other here
      rw [changed] at here
      obtain ⟨old, there, rfl⟩ := List.mem_map.mp here
      exact ⟨old, there, (touches.id_eq old).symm⟩
    · intro id
      rw [dispatches.failedRuns_eq, ite_self, List.append_nil]
  | .error error =>
    show Recorded (stage.fail run binding.id binding.animation.label error)
      (awaits (stage.pending ++ queue))
    refine recorded.ended apart (List.nil_append [run])
      (fun other here => ⟨other, here, rfl⟩) rfl rfl (scheduledRuns_fail stage run _ _ error)
      ?_ (failedRuns_fail stage run _ _ error)
    intro id
    rw [dispatchedRuns_fail, ite_self, List.append_nil]
  | .ok (.pending options) =>
    let waiting : PendingRun := ⟨run, binding.id, reason, options⟩
    show Recorded { stage with pending := stage.pending ++ [waiting] }
      (awaits ((stage.pending ++ [waiting]) ++ queue))
    have goesBack {other : RunId} {id : BindingId} :
        awaits ((stage.pending ++ [waiting]) ++ queue) other id ↔
          heldOr run binding.id (stage.pending ++ queue) other id := by
      rw [List.append_assoc, List.singleton_append]
      exact awaits_middle
    exact recorded.congr (fun other here => .inl ⟨other, here, rfl⟩) (Nat.le_refl _)
      (Nat.le_refl _) ⟨[], nofun, rfl⟩ (fun _ _ => goesBack.mp) (fun _ _ _ => goesBack.mpr)

/-! ## Schedules and polls -/

section

variable (stage : Stage) (binding : Binding) (reason : RunReason) (id : BindingId)

theorem scheduledRuns_start : scheduledRuns id (stage.start binding reason).history =
    scheduledRuns id stage.history ++ if binding.id = id then [stage.runCount + 1] else [] := by
  show scheduledRuns id (.scheduled _ _ _ :: stage.history) = _
  rw [scheduledRuns_cons, Event.scheduledRun?]
  split <;> rfl

theorem dispatchedRuns_start : dispatchedRuns id (stage.start binding reason).history =
    dispatchedRuns id stage.history := by
  show dispatchedRuns id (.scheduled _ _ _ :: stage.history) = _
  rw [dispatchedRuns_cons]
  exact List.append_nil _

theorem failedRuns_start : failedRuns id (stage.start binding reason).history =
    failedRuns id stage.history := by
  show failedRuns id (.scheduled _ _ _ :: stage.history) = _
  rw [failedRuns_cons]
  exact List.append_nil _

end

/-- A scheduled run goes on record, and is about to go on. -/
theorem start_recorded {stage : Stage} (sound : Sound stage [])
    (recorded : Recorded stage (awaits (stage.pending ++ []))) {binding : Binding}
    (found : stage.binding? binding.id = some binding) (reason : RunReason) :
    Recorded (stage.start binding reason)
      (heldOr (stage.runCount + 1) binding.id ((stage.start binding reason).pending ++ [])) := by
  have scheduled := scheduledRuns_start stage binding reason
  have dispatched := dispatchedRuns_start stage binding reason
  have failed := failedRuns_start stage binding reason
  -- no number that is on record is greater than the count of runs
  have new : ∀ id, stage.runCount + 1 ∉ scheduledRuns id stage.history := fun id here =>
    Nat.not_succ_le_self _ (recorded.bounded id _ here).1
  exact {
    ascending := by
      intro id
      rw [scheduled]
      refine List.pairwise_append.mpr ⟨recorded.ascending id, ?_, ?_⟩
      · split <;> simp
      · intro first before second now
        rw [List.mem_ite_nil_right, List.mem_singleton] at now
        rw [now.2]
        exact Nat.lt_succ_of_le (recorded.bounded id first before).1
    bounded := by
      intro id run here
      rw [scheduled, List.mem_append, List.mem_ite_nil_right, List.mem_singleton] at here
      show run ≤ stage.runCount + 1 ∧ id.number ≤ stage.bindingCount
      rcases here with before | ⟨rfl, rfl⟩
      · obtain ⟨first, second⟩ := recorded.bounded id run before
        exact ⟨Nat.le_succ_of_le first, second⟩
      · exact ⟨Nat.le_refl _, sound.numbered binding (mem_bindings_of_binding? found).1⟩
    dispatched := by
      intro id run here
      rw [dispatched] at here
      rw [scheduled]
      exact List.mem_append_left _ (recorded.dispatched id run here)
    failed := by
      intro id run here
      rw [failed] at here
      rw [scheduled]
      exact List.mem_append_left _ (recorded.failed id run here)
    once := by
      intro id
      rw [dispatched, failed]
      exact recorded.once id
    waiting := by
      intro run id waits
      rw [scheduled, dispatched, failed]
      rcases waits with ⟨rfl, rfl⟩ | waits
      · refine ⟨List.mem_append_right _ (by simp), ?_, ?_⟩
        · exact fun here => new _ (recorded.dispatched _ _ here)
        · exact fun here => new _ (recorded.failed _ _ here)
      · obtain ⟨first, second⟩ := recorded.waiting run id waits
        exact ⟨List.mem_append_left _ first, second⟩
    accounted := by
      intro other here run wasScheduled
      rw [scheduled, List.mem_append, List.mem_ite_nil_right, List.mem_singleton] at wasScheduled
      rw [dispatched, failed]
      rcases wasScheduled with before | ⟨same, now⟩
      · rcases recorded.accounted other here run before with ended | ended | waits
        · exact .inl ended
        · exact .inr (.inl ended)
        · exact .inr (.inr (.inr waits))
      · exact .inr (.inr (.inl ⟨now, same.symm⟩)) }

theorem schedule_recorded {stage : Stage} (sound : Sound stage [])
    (recorded : Recorded stage (awaits (stage.pending ++ []))) (id : BindingId)
    (reason : RunReason) :
    Recorded (stage.schedule id reason).1
      (awaits ((stage.schedule id reason).1.pending ++ [])) := by
  cases found : stage.binding? id with
  | none =>
    rw [schedule_of_none found]
    exact recorded
  | some binding =>
    obtain ⟨-, rfl⟩ := mem_bindings_of_binding? found
    rw [schedule_eq found]
    exact (start_held sound found reason).advance_recorded
      (start_recorded sound recorded found reason) reason _

theorem pollRun_recorded {stage : Stage} {waiting : PendingRun} {queue : List PendingRun}
    (sound : Sound stage (waiting :: queue))
    (recorded : Recorded stage (awaits (stage.pending ++ waiting :: queue))) (plays : Nat) :
    Recorded (pollRun (stage, plays) waiting).1
      (awaits ((pollRun (stage, plays) waiting).1.pending ++ queue)) := by
  obtain ⟨binding, found, waits⟩ := sound.binding?_head
  have next {run : RunId} {id : BindingId} : awaits (stage.pending ++ waiting :: queue) run id ↔
      heldOr waiting.run binding.id (stage.pending ++ queue) run id := by
    rw [waits.id_eq]
    exact awaits_middle
  rw [pollRun_eq found]
  exact (poll_held sound found).advance_recorded (recorded.congr
    (fun other here => .inl ⟨other, here, rfl⟩) (Nat.le_refl _) (Nat.le_refl _)
    ⟨[], nofun, rfl⟩ (fun _ _ => next.mpr) (fun _ _ _ => next.mp)) waiting.reason _

/-! ## Every step keeps the record -/

theorem release_recorded {stage : Stage}
    (recorded : Recorded stage (awaits (stage.pending ++ []))) (chosen : Binding → Bool) :
    Recorded (stage.release chosen) (awaits ((stage.release chosen).pending ++ [])) := by
  have releases := release_releases stage chosen
  obtain ⟨events, endings, added⟩ := releases.adds
  refine recorded.congr ?_ (Nat.le_of_eq releases.runCount.symm)
    (Nat.le_of_eq releases.bindingCount.symm)
    ⟨events, fun event here => Event.isAside_of_isIdle (Event.isIdle_of_isEnding
      (endings event here)), added⟩ ?_ ?_
  · intro binding here
    rw [releases.bindings] at here
    exact .inl ⟨binding, (List.mem_filter.mp here).1, rfl⟩
  · rintro run id ⟨waiting, here, rfl, rfl⟩
    rw [List.append_nil, releases.pending] at here
    exact ⟨waiting, List.mem_append_left _ (List.mem_filter.mp here).1, rfl, rfl⟩
  · rintro binding here run ⟨waiting, there, rfl, same⟩
    rw [List.append_nil] at there
    rw [releases.bindings] at here
    refine ⟨waiting, List.mem_append_left _ ?_, rfl, same⟩
    rw [releases.pending]
    refine List.mem_filter.mpr ⟨there, ?_⟩
    rw [same]
    exact (List.mem_filter.mp here).2

/-- What begins, ends or happens besides bindings keeps the record. -/
theorem Recorded.of_adds {stage after : Stage} {kind : Event → Bool}
    (recorded : Recorded stage (awaits (stage.pending ++ [])))
    (asides : ∀ event, kind event = true → event.isIdle = true)
    (adds : Adds kind stage after)
    (bindings : ∀ binding ∈ after.bindings, (∃ old ∈ stage.bindings, old.id = binding.id) ∨
      scheduledRuns binding.id stage.history = [])
    (pending : after.pending = stage.pending) (runCount : stage.runCount ≤ after.runCount)
    (bindingCount : stage.bindingCount ≤ after.bindingCount) :
    Recorded after (awaits (after.pending ++ [])) := by
  obtain ⟨events, kinds, added⟩ := adds
  rw [pending]
  exact recorded.congr bindings runCount bindingCount
    ⟨events, fun event here => Event.isAside_of_isIdle (asides event (kinds event here)), added⟩
    (fun _ _ waits => waits) (fun _ _ _ waits => waits)

theorem bind_recorded {stage : Stage} (recorded : Recorded stage (awaits (stage.pending ++ [])))
    (label : String) (animation : Animation) (chain : Chain) :
    Recorded (stage.bind label animation chain).1
      (awaits ((stage.bind label animation chain).1.pending ++ [])) := by
  have binds := bind_binds stage label animation chain
  obtain ⟨subscriptions, bindings⟩ := binds.bindings
  refine recorded.of_adds (fun _ => Event.isIdle_of_isBeginning) binds.adds ?_ binds.pending
    (Nat.le_of_eq binds.runCount.symm) (binds.bindingCount ▸ Nat.le_succ _)
  intro binding here
  rw [bindings] at here
  rcases List.mem_append.mp here with here | here
  · exact .inl ⟨binding, here, rfl⟩
  · rw [List.mem_singleton.mp here]
    refine .inr (recorded.scheduledRuns_eq_nil ?_)
    rw [binds.id_eq]
    exact Nat.lt_succ_self _

theorem lookAt_recorded {stage : Stage}
    (recorded : Recorded stage (awaits (stage.pending ++ []))) (binding : Binding) :
    Recorded (stage.lookAt binding) (awaits ((stage.lookAt binding).pending ++ [])) := by
  have looks := lookAt_looks stage binding
  refine recorded.of_adds (fun _ => Event.isIdle_of_isEnding) looks.adds ?_ looks.pending
    (Nat.le_of_eq looks.runCount.symm) (Nat.le_of_eq looks.bindingCount.symm)
  rw [looks.bindings]
  intro other here
  obtain ⟨old, there, rfl⟩ := List.mem_map.mp here
  refine .inl ⟨old, there, ?_⟩
  split <;> rfl

theorem step_recorded {told : Option BindingId} {before after : Stage}
    (step : Step told before after) (sound : Sound before [])
    (recorded : Recorded before (awaits (before.pending ++ []))) :
    Recorded after (awaits (after.pending ++ [])) := by
  cases step with
  | unbound passes =>
    refine recorded.of_adds (fun _ => Event.isIdle_of_isUnbound) passes.adds ?_ passes.pending
      (Nat.le_of_eq passes.runCount.symm) (Nat.le_of_eq passes.bindingCount.symm)
    rw [passes.bindings]
    exact fun binding here => .inl ⟨binding, here, rfl⟩
  | released chosen => exact release_recorded recorded chosen
  | installed label animation chain =>
    exact schedule_recorded (bind_sound sound label animation chain)
      (bind_recorded recorded label animation chain) _ _
  | changed tells => exact schedule_recorded sound recorded _ _
  | entered here responds =>
    rename_i entering
    rw [enter_eq]
    exact schedule_recorded (lookAt_sound sound entering) (lookAt_recorded recorded entering)
      _ _
  | tornDown element gone =>
    exact recorded.congr (fun binding here => .inl ⟨binding, here, rfl⟩) (Nat.le_refl _)
      (Nat.le_refl _) ⟨[.tornDown element], by simp [Event.isAside], rfl⟩
      (fun _ _ waits => waits) (fun _ _ _ waits => waits)

theorem takeUp_recorded {stage : Stage}
    (recorded : Recorded stage (awaits (stage.pending ++ []))) :
    Recorded stage.takeUp (awaits (stage.takeUp.pending ++ stage.pending)) := by
  rw [List.append_nil] at recorded
  exact recorded.congr (fun binding here => .inl ⟨binding, here, rfl⟩) (Nat.le_refl _)
    (Nat.le_refl _) ⟨[], nofun, rfl⟩ (fun _ _ waits => waits) (fun _ _ _ waits => waits)

/-- **Operations keep the record.** -/
theorem performAll_recorded {stage : Stage} (sound : Sound stage [])
    (recorded : Recorded stage (awaits (stage.pending ++ []))) (operations : List Operation) :
    Recorded (stage.performAll operations)
      (awaits ((stage.performAll operations).pending ++ [])) := by
  refine (performAll_invariant (fun stage queue =>
      Sound stage queue ∧ Recorded stage (awaits (stage.pending ++ queue)))
    (fun _ both => both.1.distinct) ?_ ?_ ?_ operations stage ⟨sound, recorded⟩).2
  · intro stage both
    exact ⟨takeUp_sound both.1, takeUp_recorded both.2⟩
  · intro stage waiting queue plays both
    exact ⟨pollRun_sound both.1 plays, pollRun_recorded both.1 both.2 plays⟩
  · intro told before after step both
    exact ⟨step_sound step both.1, step_recorded step both.1 both.2⟩

end Stage

end Choreography
