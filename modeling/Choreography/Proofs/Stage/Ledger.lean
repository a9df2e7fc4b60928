import Choreography.Proofs.Stage.Membership

/-!
# The ledger of runs

Every run that was scheduled has a number of its own and is accounted for once: it was
dispatched, has failed, was dropped with its binding, or has not come to an end.  While a
run goes on, or a tick has still runs to poll, those count as not ended, so the ledger is
balanced at every moment (`performAll_ledger`).
-/

namespace Choreography

namespace Event

/-- The run that an event dispatches, with its binding. -/
def dispatched? : Event → Option (RunId × BindingId)
  | .dispatched run binding _ _ _ => some (run, binding)
  | _ => none

/-- The run that is dropped in an event, with its binding. -/
def dropped? : Event → Option (RunId × BindingId)
  | .dropped run binding => some (run, binding)
  | _ => none

/-- Whether an event neither begins a run nor brings one to its end. -/
def isNoStep : Event → Bool
  | .dropped .. => false
  | event => event.isAside

theorem scheduled?_of_isNoStep {event : Event} (noStep : event.isNoStep = true) :
    event.scheduled? = none := by
  cases event <;> first | rfl | cases noStep

theorem dispatched?_of_isNoStep {event : Event} (noStep : event.isNoStep = true) :
    event.dispatched? = none := by
  cases event <;> first | rfl | cases noStep

theorem failed?_of_isNoStep {event : Event} (noStep : event.isNoStep = true) :
    event.failed? = none := by
  cases event <;> first | rfl | cases noStep

theorem dropped?_of_isNoStep {event : Event} (noStep : event.isNoStep = true) :
    event.dropped? = none := by
  cases event <;> first | rfl | cases noStep

theorem isNoStep_of_isUnbound {event : Event} (unbound : event.isUnbound = true) :
    event.isNoStep = true := by
  cases event <;> first | rfl | cases unbound

theorem isNoStep_of_isBeginning {event : Event} (beginning : event.isBeginning = true) :
    event.isNoStep = true := by
  cases event <;> first | rfl | cases beginning

theorem isNoStep_of_isNotice {event : Event} (notice : event.isNotice = true) :
    event.isNoStep = true := by
  cases event <;> first | rfl | cases notice

theorem isNoStep_of_isPlayOf {run : RunId} {id : BindingId} {element? : Option ElementId}
    {event : Event} (play : event.isPlayOf run id element? = true) : event.isNoStep = true := by
  cases event <;> first | rfl | cases play

end Event

/-- The runs that were scheduled, with their bindings, the first one first. -/
def scheduledAll (history : List Event) : List (RunId × BindingId) :=
  (gather Event.scheduled? history).map fun entry => (entry.1, entry.2.1)

/-- The runs that were dispatched, with their bindings, the first one first. -/
def dispatchedAll (history : List Event) : List (RunId × BindingId) :=
  gather Event.dispatched? history

/-- The runs that ended with an error, with their bindings, the first one first. -/
def failedAll (history : List Event) : List (RunId × BindingId) :=
  (gather Event.failed? history).map fun entry => (entry.1, entry.2.1)

/-- The runs that were dropped, with their bindings, the first one first. -/
def droppedAll (history : List Event) : List (RunId × BindingId) :=
  gather Event.dropped? history

namespace Stage

/-- Waiting runs with their bindings. -/
def entries (waiting : List PendingRun) : List (RunId × BindingId) :=
  waiting.map fun run => (run.run, run.binding)

/-- A stage whose history accounts for every run but those that have not come to an end. -/
structure Ledger (stage : Stage) (unsettled : List (RunId × BindingId)) : Prop where
  numbers : (scheduledAll stage.history).map Prod.fst = List.range' 1 stage.runCount
  balanced : ∀ entry, (scheduledAll stage.history).count entry =
    (dispatchedAll stage.history).count entry + (failedAll stage.history).count entry +
      (droppedAll stage.history).count entry + unsettled.count entry
  released : ∀ entry ∈ droppedAll stage.history, Event.released entry.2 ∈ stage.history

theorem new_ledger (settings : Settings) (data : Store) (source : HelperSupply) :
    Ledger (new settings data source) (entries []) :=
  ⟨rfl, fun _ => rfl, nofun⟩

/-- What is no step of a run changes nothing in the ledger, and neither does the order of the
runs that have not ended. -/
theorem Ledger.congr {stage after : Stage} {unsettled others : List (RunId × BindingId)}
    (ledger : Ledger stage unsettled) (adds : Adds Event.isNoStep stage after)
    (runCount : after.runCount = stage.runCount) (same : unsettled.Perm others) :
    Ledger after others := by
  obtain ⟨events, kinds, added⟩ := adds
  have silent {α : Type} {read : Event → Option α}
      (none : ∀ event, Event.isNoStep event = true → read event = none) :
      gather read after.history = gather read stage.history := by
    rw [added, gather_append_of_silent fun event here => none event (kinds event here)]
  have scheduled : scheduledAll after.history = scheduledAll stage.history :=
    congrArg (List.map _) (silent fun _ => Event.scheduled?_of_isNoStep)
  have dispatched : dispatchedAll after.history = dispatchedAll stage.history :=
    silent fun _ => Event.dispatched?_of_isNoStep
  have failed : failedAll after.history = failedAll stage.history :=
    congrArg (List.map _) (silent fun _ => Event.failed?_of_isNoStep)
  have dropped : droppedAll after.history = droppedAll stage.history :=
    silent fun _ => Event.dropped?_of_isNoStep
  exact {
    numbers := by
      rw [scheduled, runCount]
      exact ledger.numbers
    balanced := by
      intro entry
      rw [scheduled, dispatched, failed, dropped, ← same.count_eq]
      exact ledger.balanced entry
    released := by
      intro entry here
      rw [added]
      exact List.mem_append_right _ (ledger.released entry (dropped ▸ here)) }

/-! ## One run goes on -/

/-- A run that comes to its end, in one of two ways, is settled. -/
theorem Ledger.settled {stage after : Stage} {entry : RunId × BindingId}
    {unsettled done lost : List (RunId × BindingId)} (ledger : Ledger stage (entry :: unsettled))
    (single : done ++ lost = [entry]) (runCount : after.runCount = stage.runCount)
    (scheduled : scheduledAll after.history = scheduledAll stage.history)
    (dispatched : dispatchedAll after.history = dispatchedAll stage.history ++ done)
    (failed : failedAll after.history = failedAll stage.history ++ lost)
    (dropped : droppedAll after.history = droppedAll stage.history)
    (grown : ∀ event ∈ stage.history, event ∈ after.history) : Ledger after unsettled where
  numbers := by
    rw [scheduled, runCount]
    exact ledger.numbers
  balanced := by
    intro other
    have before := ledger.balanced other
    have ends := congrArg (List.count other) single
    rw [List.count_append] at ends
    rw [List.count_cons, ← List.count_singleton] at before
    rw [scheduled, dispatched, failed, dropped, List.count_append, List.count_append]
    omega
  released := by
    rw [dropped]
    exact fun other here => grown _ (ledger.released other here)

/-- A dispatch is one step of a run among events that are none. -/
theorem Dispatches.gather_eq {run : RunId} {binding : Binding} {resolved : Fields Value}
    {before after : Stage} {α : Type} {read : Event → Option α}
    (dispatches : Dispatches run binding resolved before after)
    (silent : ∀ event, Event.isNoStep event = true → read event = none) :
    gather read after.history = gather read before.history ++
      (read (.dispatched run binding.id binding.animation.name binding.element
        resolved)).toList := by
  obtain ⟨late, early, kinds, notices, added⟩ := dispatches.history
  rw [added, gather_append_of_silent, gather_cons, gather_append_of_silent]
  · exact fun event here => silent event (Event.isNoStep_of_isNotice (notices event here))
  · intro event here
    rcases kinds event here with notice | play
    · exact silent event (Event.isNoStep_of_isNotice notice)
    · exact silent event (Event.isNoStep_of_isPlayOf play)

theorem dispatch_ledger {before after : Stage} {run : RunId} {binding : Binding}
    {resolved : Fields Value} {unsettled : List (RunId × BindingId)}
    (dispatches : Dispatches run binding resolved before after)
    (ledger : Ledger before ((run, binding.id) :: unsettled)) : Ledger after unsettled := by
  have scheduled := dispatches.gather_eq fun _ => Event.scheduled?_of_isNoStep
  have failed := dispatches.gather_eq fun _ => Event.failed?_of_isNoStep
  obtain ⟨late, early, -, -, added⟩ := dispatches.history
  refine ledger.settled (List.append_nil [(run, binding.id)]) dispatches.keeps.runCount
    (congrArg (List.map _) (scheduled.trans (List.append_nil _)))
    (dispatches.gather_eq fun _ => Event.dispatched?_of_isNoStep) ?_
    ((dispatches.gather_eq fun _ => Event.dropped?_of_isNoStep).trans (List.append_nil _)) ?_
  · exact (congrArg (List.map _) (failed.trans (List.append_nil _))).trans
      (List.append_nil _).symm
  · intro event here
    rw [added]
    exact List.mem_append_right _ (List.mem_cons_of_mem _ (List.mem_append_right _ here))

theorem fail_ledger {stage : Stage} {run : RunId} {id : BindingId}
    {unsettled : List (RunId × BindingId)} (ledger : Ledger stage ((run, id) :: unsettled))
    (label : String) (error : ResolveError) : Ledger (stage.fail run id label error) unsettled := by
  have read {α : Type} (read : Event → Option α) :
      gather read (stage.fail run id label error).history =
        gather read stage.history ++ (read (.failed run id error)).toList ++
          (read (.reported (failure label error))).toList := by
    show gather read (.reported _ :: .failed _ _ _ :: stage.history) = _
    rw [gather_cons, gather_cons]
  refine ledger.settled (List.nil_append [(run, id)]) rfl ?_ ?_ ?_ ?_ ?_
  · rw [scheduledAll, read]
    exact congrArg (List.map _) ((List.append_nil _).trans (List.append_nil _))
  · rw [dispatchedAll, read]
    exact List.append_nil _
  · rw [failedAll, read]
    exact (congrArg (List.map _) (List.append_nil _)).trans List.map_append
  · rw [droppedAll, read]
    exact (List.append_nil _).trans (List.append_nil _)
  · exact fun event here => List.mem_cons_of_mem _ (List.mem_cons_of_mem _ here)

/-- A run that goes on is dispatched, fails or waits, and the ledger stays balanced. -/
theorem advance_ledger {stage : Stage} {run : RunId} {binding : Binding}
    {queue : List PendingRun} (found : stage.binding? binding.id = some binding)
    (ledger : Ledger stage ((run, binding.id) :: entries (stage.pending ++ queue)))
    (reason : RunReason) (outcome : Except ResolveError Resolution) :
    Ledger (stage.advance run binding reason outcome).1
      (entries ((stage.advance run binding reason outcome).1.pending ++ queue)) := by
  match outcome with
  | .ok (.ready resolved) =>
    have dispatches := dispatch_dispatches found run reason resolved
    have after := dispatch_ledger dispatches ledger
    rw [← dispatches.keeps.pending] at after
    exact after
  | .ok (.pending options) =>
    refine ledger.congr (Adds.refl _ stage) rfl ?_
    show (((run, binding.id) :: entries (stage.pending ++ queue)).Perm
      (entries ((stage.pending ++ [⟨run, binding.id, reason, options⟩]) ++ queue)))
    rw [List.append_assoc, List.singleton_append]
    simp only [entries, List.map_append, List.map_cons]
    exact List.perm_middle.symm
  | .error error => exact fail_ledger ledger binding.animation.label error

/-- A scheduled run has the next number, and is entered as not ended. -/
theorem start_ledger {stage : Stage} {unsettled : List (RunId × BindingId)}
    (ledger : Ledger stage unsettled) (binding : Binding) (reason : RunReason) :
    Ledger (stage.start binding reason) ((stage.runCount + 1, binding.id) :: unsettled) := by
  let entry : RunId × BindingId := (stage.runCount + 1, binding.id)
  have read {α : Type} (read : Event → Option α) :
      gather read (stage.start binding reason).history =
        gather read stage.history ++ (read (.scheduled entry.1 entry.2 reason)).toList :=
    gather_cons _
  have scheduled : scheduledAll (stage.start binding reason).history =
      scheduledAll stage.history ++ [entry] := by
    rw [scheduledAll, read]
    exact List.map_append
  have dispatched : dispatchedAll (stage.start binding reason).history =
      dispatchedAll stage.history := (read _).trans (List.append_nil _)
  have failed : failedAll (stage.start binding reason).history = failedAll stage.history :=
    congrArg (List.map _) ((read _).trans (List.append_nil _))
  have dropped : droppedAll (stage.start binding reason).history = droppedAll stage.history :=
    (read _).trans (List.append_nil _)
  exact {
    numbers := by
      rw [scheduled, List.map_append, ledger.numbers]
      show List.range' 1 stage.runCount ++ [stage.runCount + 1] =
        List.range' 1 (stage.runCount + 1)
      rw [List.range'_1_concat, Nat.add_comm 1]
    balanced := by
      intro other
      have before := ledger.balanced other
      have entered : (entry :: unsettled).count other =
          unsettled.count other + [entry].count other := by
        rw [List.count_cons, List.count_singleton]
      rw [scheduled, dispatched, failed, dropped, List.count_append, entered]
      omega
    released := by
      intro other here
      exact List.mem_cons_of_mem _ (ledger.released other (dropped ▸ here)) }

theorem schedule_ledger {stage : Stage} (ledger : Ledger stage (entries stage.pending))
    (id : BindingId) (reason : RunReason) :
    Ledger (stage.schedule id reason).1 (entries (stage.schedule id reason).1.pending) := by
  refine schedule_cases (motive := fun after => Ledger after (entries after.pending)) stage id
    reason ledger ?_
  intro binding found _ outcome
  -- the new run is entered before it goes on, so it is settled or stays in the queue
  have started := start_ledger ledger binding reason
  rw [← List.append_nil stage.pending] at started
  have advanced := advance_ledger found started reason outcome
  rwa [List.append_nil] at advanced

theorem pollRun_ledger {stage : Stage} {waiting : PendingRun} {queue : List PendingRun}
    (sound : Sound stage (waiting :: queue))
    (ledger : Ledger stage (entries (stage.pending ++ waiting :: queue))) (plays : Nat) :
    Ledger (pollRun (stage, plays) waiting).1
      (entries ((pollRun (stage, plays) waiting).1.pending ++ queue)) := by
  obtain ⟨binding, found, waits⟩ := sound.binding?_head
  have held : Ledger (stage.polled waiting)
      ((waiting.run, binding.id) :: entries ((stage.polled waiting).pending ++ queue)) := by
    refine ledger.congr (Adds.refl _ stage) rfl ?_
    rw [waits.id_eq]
    exact List.perm_middle.map fun run : PendingRun => (run.run, run.binding)
  rw [pollRun_eq found]
  exact advance_ledger (poll_held sound found).found held waiting.reason _

/-! ## Every step keeps the ledger -/

/-- The waiting runs that go when some bindings are released. -/
def drops (stage : Stage) (chosen : Binding → Bool) : List PendingRun :=
  stage.pending.filter fun run =>
    ((stage.bindings.filter chosen).map Binding.id).contains run.binding

/-- The runs that are left after a release, with those that went, are those that waited. -/
theorem perm_release_pending (stage : Stage) (chosen : Binding → Bool) :
    (entries (stage.drops chosen) ++ entries (stage.release chosen).pending).Perm
      (entries stage.pending) := by
  let ids := (stage.bindings.filter chosen).map Binding.id
  rw [(release_releases stage chosen).pending, entries, entries, ← List.map_append]
  exact (List.filter_append_perm (fun run => ids.contains run.binding) stage.pending).map _

/-- Apart from what is no step of a run, a release only adds the drops. -/
theorem gather_release {α : Type} {read : Event → Option α}
    (silent : ∀ event, Event.isNoStep event = true → read event = none) (stage : Stage)
    (chosen : Binding → Bool) :
    gather read (stage.release chosen).history = gather read stage.history ++
      (stage.drops chosen).filterMap fun run => read (.dropped run.run run.binding) := by
  let farewells := (stage.bindings.filter chosen).reverse.flatMap (farewell stage.settings)
  have history : (stage.release chosen).history =
      ((stage.drops chosen).map fun run => Event.dropped run.run run.binding).reverse ++
        (farewells ++ stage.history) := by
    rw [release_eq]
    rfl
  have aside : ∀ event ∈ farewells, event.isNoStep = true := by
    intro event here
    obtain ⟨binding, -, among⟩ := List.mem_flatMap.mp here
    rcases mem_farewell.mp among with ⟨-, rfl⟩ | ⟨subscription, -, rfl⟩ | rfl <;> rfl
  have reversed (events : List Event) : gather read events.reverse = events.filterMap read := by
    rw [gather, List.reverse_reverse]
  rw [history, gather_append, gather_append_of_silent fun event here =>
    silent event (aside event here), reversed, List.filterMap_map]
  rfl

/-- A run is dropped only where its binding is released. -/
theorem released_of_mem_drops {stage : Stage} {chosen : Binding → Bool} {run : PendingRun}
    (here : run ∈ stage.drops chosen) :
    Event.released run.binding ∈ (stage.release chosen).history := by
  have own := List.contains_iff_mem.mp (List.mem_filter.mp here).2
  obtain ⟨binding, among, same⟩ := List.mem_map.mp own
  obtain ⟨present, isChosen⟩ := List.mem_filter.mp among
  exact mem_release_released.mpr (.inl ⟨binding, present, isChosen, same⟩)

theorem release_ledger {stage : Stage} (chosen : Binding → Bool)
    (ledger : Ledger stage (entries stage.pending)) :
    Ledger (stage.release chosen) (entries (stage.release chosen).pending) := by
  have kept {α : Type} (events : List α) :
      events ++ (stage.drops chosen).filterMap (fun _ => none) = events := by
    rw [List.filterMap_eq_nil_iff.mpr (fun _ _ => rfl), List.append_nil]
  have scheduled : scheduledAll (stage.release chosen).history = scheduledAll stage.history :=
    congrArg (List.map _)
      ((gather_release (fun _ => Event.scheduled?_of_isNoStep) stage chosen).trans (kept _))
  have dispatched : dispatchedAll (stage.release chosen).history =
      dispatchedAll stage.history :=
    (gather_release (fun _ => Event.dispatched?_of_isNoStep) stage chosen).trans (kept _)
  have failed : failedAll (stage.release chosen).history = failedAll stage.history :=
    congrArg (List.map _)
      ((gather_release (fun _ => Event.failed?_of_isNoStep) stage chosen).trans (kept _))
  have dropped : droppedAll (stage.release chosen).history =
      droppedAll stage.history ++ entries (stage.drops chosen) := by
    refine (gather_release (fun _ => Event.dropped?_of_isNoStep) stage chosen).trans
      (congrArg _ ?_)
    exact congrFun (List.filterMap_eq_map (f := fun run : PendingRun => (run.run, run.binding)))
      (stage.drops chosen)
  exact {
    numbers := by
      rw [scheduled, (release_releases stage chosen).runCount]
      exact ledger.numbers
    balanced := by
      intro entry
      have before := ledger.balanced entry
      have parted := (perm_release_pending stage chosen).count_eq entry
      rw [List.count_append] at parted
      rw [scheduled, dispatched, failed, dropped, List.count_append]
      omega
    released := by
      intro entry here
      rw [dropped] at here
      rcases List.mem_append.mp here with here | here
      · exact mem_release_released.mpr (.inr (ledger.released entry here))
      · obtain ⟨run, among, rfl⟩ := List.mem_map.mp here
        exact released_of_mem_drops among }

theorem step_ledger {told : Option BindingId} {before after : Stage}
    (step : Step told before after) (ledger : Ledger before (entries before.pending)) :
    Ledger after (entries after.pending) := by
  cases step with
  | unbound passes =>
    rw [passes.pending]
    exact ledger.congr (passes.adds.mono fun _ => Event.isNoStep_of_isUnbound) passes.runCount
      (List.Perm.refl _)
  | released chosen => exact release_ledger chosen ledger
  | installed label animation chain =>
    have binds := bind_binds before label animation chain
    have bound : Ledger (before.bind label animation chain).1
        (entries (before.bind label animation chain).1.pending) := by
      rw [binds.pending]
      exact ledger.congr (binds.adds.mono fun _ => Event.isNoStep_of_isBeginning) binds.runCount
        (List.Perm.refl _)
    exact schedule_ledger bound _ .initial
  | changed tells => exact schedule_ledger ledger _ .sourceChanged
  | entered here responds =>
    rename_i binding
    have looked : Ledger (before.lookAt binding) (entries (before.lookAt binding).pending) := by
      unfold lookAt
      dsimp only
      split
      · exact ledger.congr ⟨[.unobserved binding.id binding.element], by
          simp [Event.isNoStep, Event.isAside], rfl⟩ rfl (List.Perm.refl _)
      · exact ledger.congr (Adds.refl _ before) rfl (List.Perm.refl _)
    rw [enter_eq]
    exact schedule_ledger looked _ .enteredView
  | tornDown element gone =>
    exact ledger.congr ⟨[.tornDown element], by simp [Event.isNoStep, Event.isAside], rfl⟩ rfl
      (List.Perm.refl _)

/-- **Operations keep the ledger balanced.** -/
theorem performAll_ledger {stage : Stage} (sound : Sound stage [])
    (ledger : Ledger stage (entries stage.pending)) (operations : List Operation) :
    Ledger (stage.performAll operations) (entries (stage.performAll operations).pending) := by
  have both := performAll_invariant
    (fun stage queue => Sound stage queue ∧ Ledger stage (entries (stage.pending ++ queue)))
    (fun _ both => both.1.distinct) ?_ ?_ ?_ operations stage
    ⟨sound, by rw [List.append_nil]; exact ledger⟩
  · rw [List.append_nil] at both
    exact both.2
  · intro stage both
    refine ⟨takeUp_sound both.1, ?_⟩
    have ledger := both.2
    rw [List.append_nil] at ledger
    exact ledger.congr (Adds.refl _ stage) rfl (List.Perm.refl _)
  · intro stage waiting queue plays both
    exact ⟨pollRun_sound both.1 plays, pollRun_ledger both.1 both.2 plays⟩
  · intro told before after step both
    have ledger := both.2
    rw [List.append_nil] at ledger ⊢
    exact ⟨step_sound step both.1, step_ledger step ledger⟩

end Stage

end Choreography
