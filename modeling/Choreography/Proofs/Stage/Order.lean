import Choreography.Proofs.Stage.Recorded

/-!
# The order of dispatches

Runs of one binding are scheduled in the order of their numbers.  They are also
dispatched in this order, as long as no run is left *overdue*: waiting although every
helper that it waits for has settled.  That can happen, in a tick in which the helper
settles after the run was polled; and a run that is scheduled while another is overdue
does not wait for it.

* `InOrder` is the invariant for the history and the runs that wait;
* `Punctual` says of a sequence of operations that no tick leaves a run overdue;
* `performAll_inOrder` — operations that are punctual keep the order.
-/

namespace Choreography

namespace Stage

/-- Whether every helper that a waiting run waits for has settled. -/
def Overdue (stage : Stage) (waiting : PendingRun) : Prop :=
  ∀ name ∈ Sketch.fieldsAwaited waiting.options, stage.loader.hasSettled name = true

/-- No waiting run of a binding is overdue. -/
def NoneOverdue (id : BindingId) (stage : Stage) : Prop :=
  ∀ waiting ∈ stage.pending, waiting.binding = id → ¬ stage.Overdue waiting

/-- No tick among some operations leaves a run of a binding overdue. -/
def Punctual (id : BindingId) : Stage → List Operation → Prop
  | _, [] => True
  | stage, operation :: rest =>
    (operation.isTick = true → NoneOverdue id (stage.perform operation)) ∧
      Punctual id (stage.perform operation) rest

instance (stage : Stage) (waiting : PendingRun) : Decidable (stage.Overdue waiting) :=
  inferInstanceAs (Decidable (∀ name ∈ _, _ = true))

instance (id : BindingId) (stage : Stage) : Decidable (NoneOverdue id stage) :=
  inferInstanceAs (Decidable (∀ waiting ∈ stage.pending, waiting.binding = id →
    ¬ stage.Overdue waiting))

instance Punctual.decidable (id : BindingId) :
    (stage : Stage) → (operations : List Operation) → Decidable (Punctual id stage operations)
  | _, [] => isTrue trivial
  | stage, operation :: rest =>
    have := Punctual.decidable id (stage.perform operation) rest
    inferInstanceAs (Decidable ((operation.isTick = true → NoneOverdue id _) ∧
      Punctual id _ rest))

/-- Runs of a binding were dispatched in their order, and all before those that wait. -/
structure InOrder (id : BindingId) (stage : Stage) (queue : List PendingRun) : Prop where
  ascending : (dispatchedRuns id stage.history).Pairwise (· < ·)
  behind : ∀ waiting ∈ stage.pending ++ queue, waiting.binding = id →
    ∀ run ∈ dispatchedRuns id stage.history, run < waiting.run

/-- Some polled run of a binding is overdue. -/
def SomeOverdue (id : BindingId) (stage : Stage) : Prop :=
  ∃ waiting ∈ stage.pending, waiting.binding = id ∧ stage.Overdue waiting

/-- What dispatches no run, and leaves waiting at most what waited, keeps the order. -/
theorem InOrder.of_fewer {id : BindingId} {stage after : Stage} {queue left : List PendingRun}
    (inOrder : InOrder id stage queue)
    (same : dispatchedRuns id after.history = dispatchedRuns id stage.history)
    (fewer : ∀ waiting ∈ after.pending ++ left, waiting ∈ stage.pending ++ queue) :
    InOrder id after left where
  ascending := by
    rw [same]
    exact inOrder.ascending
  behind := by
    rw [same]
    exact fun waiting here => inOrder.behind waiting (fewer waiting here)

theorem Overdue.of_precedes {stage after : Stage} {waiting : PendingRun}
    (overdue : stage.Overdue waiting) (precedes : stage.loader.Precedes after.loader) :
    after.Overdue waiting :=
  fun name waits => precedes.hasSettled (overdue name waits)

/-- A run that waits for helpers of a template is overdue if all of these have settled. -/
theorem Waits.overdue {stage : Stage} {binding : Binding} {waiting : PendingRun}
    {loader : Loader} (waits : Waits loader binding waiting)
    (settled : ∀ name ∈ Template.fieldHelpers binding.animation.options,
      stage.loader.hasSettled name = true) : stage.Overdue waiting :=
  fun name awaited => settled name (waits.serves.asked name awaited).1

/-- Asking for more helpers makes no run overdue. -/
theorem overdue_of_grows {stage after : Stage} {binding : Binding} {waiting : PendingRun}
    (waits : Waits stage.loader binding waiting) (grows : stage.loader.Grows after.loader)
    (overdue : after.Overdue waiting) : stage.Overdue waiting := by
  intro name awaited
  obtain ⟨arrival, asked⟩ := Option.isSome_iff_exists.mp (waits.serves.asked name awaited).2
  have settled := overdue name awaited
  rw [Loader.hasSettled_of_arrival? (grows name arrival asked)] at settled
  rw [Loader.hasSettled_of_arrival? asked]
  exact settled

/-! ## One run goes on -/

/-- Where a run is dispatched all of its template's helpers have settled. -/
def ReadySettled (stage : Stage) (binding : Binding)
    (outcome : Except ResolveError Resolution) : Prop :=
  ∀ values, outcome = .ok (.ready values) →
    ∀ name ∈ Template.fieldHelpers binding.animation.options,
      stage.loader.hasSettled name = true

/-- A dispatch keeps the order, unless an earlier run of its binding still waits.  This one
is overdue then, for it waits for the same helpers. -/
theorem Held.dispatch_inOrder {id : BindingId} {stage : Stage} {run : RunId}
    {binding : Binding} {queue : List PendingRun} (held : Held stage run binding queue)
    (inOrder : InOrder id stage queue)
    (latest : binding.id = id → ∀ other ∈ dispatchedRuns id stage.history, other < run)
    (reason : RunReason) (values : Fields Value)
    (settled : ∀ name ∈ Template.fieldHelpers binding.animation.options,
      stage.loader.hasSettled name = true) :
    InOrder id (stage.dispatch run binding.id reason values).1 queue ∨
      SomeOverdue id (stage.dispatch run binding.id reason values).1 := by
  have dispatches := dispatch_dispatches held.found run reason values
  have runs := dispatches.dispatchedRuns_eq id
  have pending := dispatches.keeps.pending
  by_cases own : binding.id = id
  · rw [if_pos own] at runs
    by_cases earlier : ∃ waiting ∈ stage.pending, waiting.binding = id
    · obtain ⟨waiting, here, same⟩ := earlier
      obtain ⟨other, there, waits⟩ := held.sound.served waiting (List.mem_append_left _ here)
      -- bindings have distinct numbers, so what the earlier run serves is this binding
      have equal : other = binding := by
        have foundOther := binding?_of_mem held.sound.distinct there
        rw [waits.id_eq, same, ← own, held.found] at foundOther
        exact (Option.some.inj foundOther).symm
      subst equal
      refine .inr ⟨waiting, ?_, same, ?_⟩
      · rw [pending]
        exact here
      · refine waits.overdue ?_
        rw [dispatches.keeps.loader]
        exact settled
    · refine .inl ⟨?_, ?_⟩
      · rw [runs]
        refine List.pairwise_append.mpr ⟨inOrder.ascending, List.pairwise_singleton _ _, ?_⟩
        intro first here second there
        rw [List.mem_singleton.mp there]
        exact latest own first here
      · rw [runs, pending]
        intro waiting here same other dispatched
        rcases List.mem_append.mp dispatched with before | now
        · exact inOrder.behind waiting here same other before
        · rw [List.mem_singleton.mp now]
          rcases List.mem_append.mp here with here | here
          · exact (earlier ⟨waiting, here, same⟩).elim
          · exact held.earlier waiting here
  · rw [if_neg own, List.append_nil] at runs
    refine .inl (inOrder.of_fewer runs ?_)
    rw [pending]
    exact fun waiting here => here

/-- A run that goes on keeps the order, unless it leaves an earlier one overdue. -/
theorem Held.advance_inOrder {id : BindingId} {stage : Stage} {run : RunId}
    {binding : Binding} {queue : List PendingRun} (held : Held stage run binding queue)
    (inOrder : InOrder id stage queue)
    (latest : binding.id = id → ∀ other ∈ dispatchedRuns id stage.history, other < run)
    (reason : RunReason) {outcome : Except ResolveError Resolution}
    (settled : ReadySettled stage binding outcome) :
    InOrder id (stage.advance run binding reason outcome).1 queue ∨
      SomeOverdue id (stage.advance run binding reason outcome).1 := by
  match outcome with
  | .error error =>
    exact .inl (inOrder.of_fewer (dispatchedRuns_fail stage run _ _ error id)
      fun waiting here => here)
  | .ok (.ready values) =>
    exact held.dispatch_inOrder inOrder latest reason values (settled values rfl)
  | .ok (.pending options) =>
    refine .inl ⟨inOrder.ascending, ?_⟩
    intro waiting here own other dispatched
    rcases List.mem_append.mp here with here | here
    · rcases List.mem_append.mp here with here | here
      · exact inOrder.behind waiting (List.mem_append_left _ here) own other dispatched
      · rw [List.mem_singleton.mp here] at own ⊢
        exact latest own other dispatched
    · exact inOrder.behind waiting (List.mem_append_right _ here) own other dispatched

/-! ## Schedules -/

theorem start_readySettled (stage : Stage) (binding : Binding) (reason : RunReason) :
    ReadySettled (stage.start binding reason) binding (stage.resolve binding).2 :=
  fun _ ready => Template.settled_of_resolve (Prod.ext rfl ready)

section

variable {stage : Stage} {binding : Binding}
  (found : stage.binding? binding.id = some binding) (run : RunId) (reason : RunReason)
  (outcome : Except ResolveError Resolution)

include found

/-- A run that goes on asks for no helper. -/
theorem loader_advance : (stage.advance run binding reason outcome).1.loader = stage.loader := by
  match outcome with
  | .ok (.ready values) => exact (dispatch_dispatches found run reason values).keeps.loader
  | .ok (.pending options) => rfl
  | .error error => rfl

/-- What waits when a run has gone on waited before, or is the run. -/
theorem pending_advance :
    (stage.advance run binding reason outcome).1.pending = stage.pending ∨
      ∃ options, outcome = .ok (.pending options) ∧
        (stage.advance run binding reason outcome).1.pending =
          stage.pending ++ [⟨run, binding.id, reason, options⟩] := by
  match outcome with
  | .ok (.ready values) => exact .inl (dispatch_dispatches found run reason values).keeps.pending
  | .ok (.pending options) => exact .inr ⟨options, rfl, rfl⟩
  | .error error => exact .inl rfl

theorem mem_pending_advance {waiting : PendingRun} (here : waiting ∈ stage.pending) :
    waiting ∈ (stage.advance run binding reason outcome).1.pending := by
  rcases pending_advance found run reason outcome with same | ⟨options, -, longer⟩
  · rw [same]
    exact here
  · rw [longer]
    exact List.mem_append_left _ here

end

/-- A schedule leaves no run overdue that was not. -/
theorem schedule_noneOverdue {id : BindingId} {stage : Stage} (sound : Sound stage [])
    (punctual : NoneOverdue id stage) (own : BindingId) (reason : RunReason) :
    NoneOverdue id (stage.schedule own reason).1 := by
  cases found : stage.binding? own with
  | none =>
    rw [schedule_of_none found]
    exact punctual
  | some binding =>
    obtain ⟨-, rfl⟩ := mem_bindings_of_binding? found
    have grows : stage.loader.Grows (stage.start binding reason).loader :=
      resolve_grows stage binding
    have still := (start_held sound found reason).found
    have loader := loader_advance still
    rw [schedule_eq found]
    intro waiting here same overdue
    -- a run that waited before was not overdue, and asking for helpers does not make it so
    have old (there : waiting ∈ stage.pending) : False := by
      obtain ⟨other, -, waits⟩ := sound.served waiting (List.mem_append_left _ there)
      refine punctual waiting there same (overdue_of_grows waits ?_ overdue)
      rw [loader]
      exact grows
    rcases pending_advance still _ _ _ with same | ⟨options, outcome, longer⟩
    · rw [same] at here
      exact old here
    · rw [longer] at here
      rcases List.mem_append.mp here with here | here
      · exact old here
      · -- a run that was just sketched waits only for helpers that have not settled
        rw [List.mem_singleton.mp here] at overdue
        obtain ⟨fits, isOpen⟩ := fits_of_resolve outcome
        obtain ⟨name, awaited⟩ := List.exists_mem_of_ne_nil _ isOpen
        have settled := overdue name awaited
        rw [loader] at settled
        exact Bool.false_ne_true ((fits.fresh name awaited).symm.trans settled)

/-- Where no run is overdue a schedule keeps the order. -/
theorem schedule_inOrder {id : BindingId} {stage : Stage} (sound : Sound stage [])
    (recorded : Recorded stage (awaits (stage.pending ++ [])))
    (inOrder : InOrder id stage []) (punctual : NoneOverdue id stage) (own : BindingId)
    (reason : RunReason) : InOrder id (stage.schedule own reason).1 [] := by
  cases found : stage.binding? own with
  | none =>
    rw [schedule_of_none found]
    exact inOrder
  | some binding =>
    obtain ⟨-, rfl⟩ := mem_bindings_of_binding? found
    have after := schedule_noneOverdue sound punctual binding.id reason
    have dispatched := dispatchedRuns_start stage binding reason id
    have begun : InOrder id (stage.start binding reason) [] :=
      inOrder.of_fewer dispatched fun waiting here => here
    have latest : binding.id = id →
        ∀ other ∈ dispatchedRuns id (stage.start binding reason).history,
          other < stage.runCount + 1 := by
      intro _ other here
      rw [dispatched] at here
      exact Nat.lt_succ_of_le
        (recorded.bounded id other (recorded.dispatched id other here)).1
    rw [schedule_eq found] at after ⊢
    rcases (start_held sound found reason).advance_inOrder begun latest reason
      (start_readySettled stage binding reason) with kept | ⟨waiting, here, same, overdue⟩
    · exact kept
    · exact (after waiting here same overdue).elim

/-! ## Polls -/

/-- An overdue run that was polled in a tick stays overdue while others are polled. -/
theorem pollRun_someOverdue {id : BindingId} {stage : Stage} {waiting : PendingRun}
    {queue : List PendingRun} (sound : Sound stage (waiting :: queue))
    (some : SomeOverdue id stage) (plays : Nat) :
    SomeOverdue id (pollRun (stage, plays) waiting).1 := by
  obtain ⟨late, here, own, overdue⟩ := some
  obtain ⟨binding, found, -⟩ := sound.binding?_head
  have still := (poll_held sound found).found
  rw [pollRun_eq found]
  refine ⟨late, mem_pending_advance still _ _ _ here, own, overdue.of_precedes ?_⟩
  rw [loader_advance still]
  exact PendingOptions.poll_precedes stage.loader waiting.options

/-- A poll keeps the order, unless it leaves a run overdue. -/
theorem pollRun_inOrder {id : BindingId} {stage : Stage} {waiting : PendingRun}
    {queue : List PendingRun} (sound : Sound stage (waiting :: queue))
    (inOrder : InOrder id stage (waiting :: queue)) (plays : Nat) :
    InOrder id (pollRun (stage, plays) waiting).1 queue ∨
      SomeOverdue id (pollRun (stage, plays) waiting).1 := by
  obtain ⟨binding, found, waits⟩ := sound.binding?_head
  have rest : InOrder id (stage.polled waiting) queue := by
    refine inOrder.of_fewer rfl fun other here => ?_
    exact ((List.sublist_cons_self waiting queue).append_left stage.pending).subset here
  have latest : binding.id = id →
      ∀ other ∈ dispatchedRuns id (stage.polled waiting).history, other < waiting.run :=
    fun own => inOrder.behind waiting (List.mem_append_right _ List.mem_cons_self)
      (waits.id_eq.symm.trans own)
  rw [pollRun_eq found]
  exact (poll_held sound found).advance_inOrder rest latest waiting.reason
    fun values ready => PendingOptions.settled_of_poll waits.serves (Prod.ext rfl ready)

/-! ## Steps and operations -/

/-- What schedules nothing, and leaves waiting at most what waited, keeps the order and
makes nothing overdue. -/
theorem InOrder.of_adds {id : BindingId} {stage after : Stage} {kind : Event → Bool}
    (inOrder : InOrder id stage [] ∧ NoneOverdue id stage)
    (asides : ∀ event, kind event = true → event.isIdle = true) (adds : Adds kind stage after)
    (pending : after.pending.Sublist stage.pending)
    (loader : ∀ name, after.loader.hasSettled name = stage.loader.hasSettled name) :
    InOrder id after [] ∧ NoneOverdue id after := by
  obtain ⟨events, kinds, added⟩ := adds
  have same : dispatchedRuns id after.history = dispatchedRuns id stage.history := by
    rw [added]
    exact dispatchedRuns_append id fun event here =>
      Event.isAside_of_isIdle (asides event (kinds event here))
  refine ⟨inOrder.1.of_fewer same fun waiting here => (pending.append_right []).subset here, ?_⟩
  intro waiting here own overdue
  refine inOrder.2 waiting (pending.subset here) own ?_
  intro name awaited
  rw [← loader]
  exact overdue name awaited

theorem step_inOrder {id : BindingId} {told : Option BindingId} {before after : Stage}
    (step : Step told before after) (sound : Sound before [])
    (recorded : Recorded before (awaits (before.pending ++ [])))
    (inOrder : InOrder id before [] ∧ NoneOverdue id before) :
    InOrder id after [] ∧ NoneOverdue id after := by
  cases step with
  | unbound passes =>
    refine InOrder.of_adds inOrder (fun _ => Event.isIdle_of_isUnbound) passes.adds ?_
      passes.hasSettled
    rw [passes.pending]
  | released chosen =>
    have releases := release_releases before chosen
    refine InOrder.of_adds inOrder (fun _ => Event.isIdle_of_isEnding) releases.adds ?_ ?_
    · rw [releases.pending]
      exact List.filter_sublist
    · rw [releases.loader]
      exact fun _ => rfl
  | installed label animation chain =>
    have binds := bind_binds before label animation chain
    have bound := bind_sound sound label animation chain
    have kept := InOrder.of_adds inOrder (fun _ => Event.isIdle_of_isBeginning) binds.adds
      (binds.pending ▸ List.Sublist.refl _) (fun name => by rw [binds.loader])
    exact ⟨schedule_inOrder bound (bind_recorded recorded label animation chain) kept.1
      kept.2 _ _, schedule_noneOverdue bound kept.2 _ _⟩
  | changed tells =>
    exact ⟨schedule_inOrder sound recorded inOrder.1 inOrder.2 _ _,
      schedule_noneOverdue sound inOrder.2 _ _⟩
  | entered here responds =>
    rename_i entering
    have looks := lookAt_looks before entering
    have looked := lookAt_sound sound entering
    have kept := InOrder.of_adds inOrder (fun _ => Event.isIdle_of_isEnding) looks.adds
      (looks.pending ▸ List.Sublist.refl _) (fun name => by rw [looks.loader])
    rw [enter_eq]
    exact ⟨schedule_inOrder looked (lookAt_recorded recorded entering) kept.1 kept.2 _ _,
      schedule_noneOverdue looked kept.2 _ _⟩
  | tornDown element gone =>
    exact InOrder.of_adds inOrder (fun _ (idle : Event.isIdle _ = true) => idle)
      ⟨[.tornDown element], by simp [Event.isIdle, Event.isAside], rfl⟩
      (List.Sublist.refl _) (fun _ => rfl)

/-- A tick that leaves nothing overdue keeps the order. -/
theorem tick_inOrder {id : BindingId} {stage : Stage} (sound : Sound stage [])
    (inOrder : InOrder id stage []) (punctual : NoneOverdue id stage.tick.1) :
    InOrder id stage.tick.1 [] := by
  have taken : InOrder id stage.takeUp stage.pending :=
    ⟨inOrder.ascending, by simpa [takeUp] using inOrder.behind⟩
  have polled := foldl_pollRun_invariant
    (fun stage queue => Sound stage queue ∧
      (InOrder id stage queue ∨ SomeOverdue id stage))
    (fun stage waiting queue plays both => ⟨pollRun_sound both.1 plays,
      both.2.elim (fun kept => pollRun_inOrder both.1 kept plays)
        (fun late => .inr (pollRun_someOverdue both.1 late plays))⟩)
    stage.pending (stage.takeUp, 0) ⟨takeUp_sound sound, .inl taken⟩
  rcases polled.2 with kept | ⟨waiting, here, own, overdue⟩
  · exact kept
  · exact (punctual waiting here own overdue).elim

/-- Operations that leave no run overdue after a tick keep the order. -/
theorem performAll_inOrder {id : BindingId} (operations : List Operation) {stage : Stage}
    (sound : Sound stage []) (recorded : Recorded stage (awaits (stage.pending ++ [])))
    (inOrder : InOrder id stage [] ∧ NoneOverdue id stage)
    (punctual : Punctual id stage operations) :
    InOrder id (stage.performAll operations) [] ∧
      NoneOverdue id (stage.performAll operations) := by
  induction operations generalizing stage with
  | nil => exact inOrder
  | cons operation rest ih =>
    refine ih (performAll_sound sound [operation]) (performAll_recorded sound recorded
      [operation]) ?_ punctual.2
    by_cases isTick : operation = .tick
    · subst isTick
      have none := punctual.1 rfl
      exact ⟨tick_inOrder sound inOrder.1 none, none⟩
    · have steps := perform_steps stage sound.distinct operation isTick
      refine (steps_invariant (fun stage => Sound stage [] ∧
        Recorded stage (awaits (stage.pending ++ [])) ∧ InOrder id stage [] ∧
          NoneOverdue id stage) ?_ steps ⟨sound, recorded, inOrder⟩).2.2
      intro before after step all
      exact ⟨step_sound step all.1, step_recorded step all.1 all.2.1,
        step_inOrder step all.1 all.2.1 all.2.2⟩

end Stage

end Choreography
