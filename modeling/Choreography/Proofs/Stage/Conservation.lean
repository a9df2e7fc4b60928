import Choreography.Helper.Catalogue
import Choreography.Proofs.Stage.Ledger
import Choreography.Proofs.Stage.Recorded
import Choreography.Proofs.Stage.Subscriptions

/-!
# No run is lost

What an operation asks for is said by the stage before it: a first run for each animation
that it binds, one for the binding whose data it says has changed, and one for each binding
whose element enters the view (`demands`).

**Exactly these runs are scheduled, and each comes to exactly one end** (`runs_conserved`):
it is dispatched once, fails with one error, is dropped with its binding, or waits once.  And
a binding without a name and without triggers is played once for each run that is dispatched
(`performAll_playsEach`).
-/

namespace Choreography

namespace Stage

/-! ## What an operation asks for -/

/-- The animations that an operation binds, with their labels. -/
def arrivals (stage : Stage) : Operation → List (String × Animation)
  | .apply element directive chain =>
    let label := directive.label stage.settings.directiveStart
    (directive.compile (stage.data.scope chain) element label).result.map fun animation =>
      (label, animation)
  | _ => []

/-- The runs that an operation asks for: of each binding that it makes, of the one that holds
a subscription, and of each whose element enters the view and that waits for this, or is to
be run at every entry. -/
def demands (stage : Stage) : Operation → List (BindingId × RunReason)
  | operation@(.apply ..) => firstRuns stage.bindingCount (stage.arrivals operation).length
  | .input (.sourceChanged subscription) =>
    ((stage.bindings.find? fun binding => subscription ∈ binding.subscriptions).map
      fun binding => (binding.id, RunReason.sourceChanged)).toList
  | .input (.enteredView element) =>
    (stage.bindings.filter fun binding => binding.element = element ∧
      (binding.view = .waiting ∨ binding.view = .entered ∧ stage.settings.inViewOnce = false)).map
        fun binding => (binding.id, RunReason.enteredView)
  | _ => []

theorem handle_accounts {stage : Stage} (subscribed : Subscribed stage) (input : Input) :
    Accounts [] (stage.demands (.input input)) stage (stage.handle input) := by
  cases input with
  | sourceChanged subscription =>
    unfold handle demands
    dsimp only
    rw [subscribed.subscriber?_eq]
    cases found : stage.bindings.find? fun binding => subscription ∈ binding.subscriptions with
    | none => exact .refl stage
    | some binding =>
      obtain ⟨current, isFound⟩ := exists_binding? stage
        ⟨binding, List.mem_of_find?_eq_some found, rfl⟩
      exact schedule_accounts isFound .sourceChanged
  | enteredView element =>
    have entering : (stage.bindings.filter fun binding =>
        binding.element = element && respondsToView stage.settings binding.view) =
        stage.bindings.filter fun binding => binding.element = element ∧
          (binding.view = .waiting ∨
            binding.view = .entered ∧ stage.settings.inViewOnce = false) := by
      refine List.filter_congr fun binding _ => ?_
      cases binding.view <;> simp [respondsToView]
    unfold handle demands
    dsimp only
    rw [entering]
    exact foldl_enter_accounts _ stage fun binding here =>
      ⟨binding, (List.mem_filter.mp here).1, rfl⟩
  | teardown element =>
    refine (release_accounts stage fun binding => binding.element = element).trans ?_
    exact .of_uncounted ⟨[.tornDown element], by simp [Event.isUncounted], rfl⟩ rfl rfl rfl

/-- **An operation binds and schedules what it asks for**, and reports each failure. -/
theorem perform_accounts {stage : Stage} (subscribed : Subscribed stage) (operation : Operation)
    (keeps : operation ≠ .clearDiagnostics) :
    Accounts (stage.arrivals operation) (stage.demands operation) stage
      (stage.perform operation) := by
  cases operation with
  | apply element directive chain =>
    have asked : stage.demands (.apply element directive chain) =
        firstRuns stage.bindingCount (directive.compile (stage.data.scope chain) element
          (directive.label stage.settings.directiveStart)).result.length := by
      rw [demands, arrivals, List.length_map]
    rw [asked]
    exact apply_accounts stage element directive chain
  | input input => exact handle_accounts subscribed input
  | tick =>
    -- the queue is taken off first, and what is polled is none of the demands
    have begun : Accounts [] [] stage { stage with pending := [] } :=
      .of_uncounted (Adds.refl _ stage) rfl rfl rfl
    exact begun.trans (foldl_pollRun_accounts stage.pending (_, 0))
  | lookup name => exact lookup_accounts stage name
  | sequence names options => exact sequence_accounts stage names options
  | animate element options =>
    exact .of_uncounted ⟨[_], by simp [Event.isUncounted], rfl⟩ rfl rfl rfl
  | followScroll link =>
    exact .of_uncounted ⟨[.followedScroll link], by simp [Event.isUncounted], rfl⟩ rfl rfl rfl
  | write frame name value => exact .of_uncounted (Adds.refl _ stage) rfl rfl rfl
  | erase frame name => exact .of_uncounted (Adds.refl _ stage) rfl rfl rfl
  | offer source => exact .of_uncounted (Adds.refl _ stage) rfl rfl rfl
  | deliver name delivery =>
    show Accounts [] [] stage ((stage.deliver? name delivery).getD stage)
    cases delivered : stage.deliver? name delivery with
    | none => exact .refl stage
    | some later =>
      obtain ⟨loader, -, rfl⟩ := Option.map_eq_some_iff.mp delivered
      exact .of_uncounted (Adds.refl _ stage) rfl rfl rfl
  | clearDiagnostics => exact (keeps rfl).elim

/-! ## What is reported as an error -/

/-- A stage on which each failed run was reported as an error, in turn, and nothing else. -/
def ToldAll (stage : Stage) : Prop :=
  List.Forall₂ Tells (gather Event.failed? stage.history)
    ((gather Event.reported? stage.history).filter fun diagnostic => diagnostic.level = .error)

theorem ToldAll.of_reports {before after : Stage} (told : ToldAll before)
    {reports : List Diagnostic} {failures : List (RunId × BindingId × ResolveError)}
    (reported : Reports reports failures before after) : ToldAll after := by
  rw [ToldAll, reported.failed, reported.reported, List.filter_append]
  exact List.rel_append told reported.told

theorem perform_toldAll {stage : Stage} (subscribed : Subscribed stage) (told : ToldAll stage)
    (operation : Operation) : ToldAll (stage.perform operation) := by
  by_cases clears : operation = .clearDiagnostics
  · subst clears
    exact told
  · obtain ⟨reports, failures, reported⟩ := (perform_accounts subscribed operation clears).reports
    exact told.of_reports reported

theorem performAll_toldAll (operations : List Operation) {stage : Stage}
    (sound : Sound stage []) (subscribed : Subscribed stage) (told : ToldAll stage) :
    ToldAll (stage.performAll operations) := by
  induction operations generalizing stage with
  | nil => exact told
  | cons operation rest ih =>
    exact ih (performAll_sound sound [operation])
      (performAll_subscribed sound subscribed [operation])
      (perform_toldAll subscribed told operation)

/-! ## Animations that are played at every run -/

end Stage

/-- An animation without a name and without triggers is played at every run. -/
structure Animation.IsPlain (animation : Animation) : Prop where
  nameless : animation.name = none
  untriggered : animation.triggers.isEmpty = true

namespace Event

/-- The run of a binding on whose behalf an event is a play. -/
def playedRun? (id : BindingId) : Event → Option RunId
  | .animated (.run run binding _) _ _ _ => if binding = id then some run else none
  | _ => none

/-- Whether an event neither dispatches a run nor is a play of one. -/
def isMute : Event → Bool
  | .dispatched .. => false
  | .animated (.run ..) .. => false
  | _ => true

theorem playedRun?_of_isMute {id : BindingId} {event : Event} (mute : event.isMute = true) :
    event.playedRun? id = none := by
  cases event with
  | animated cause => cases cause <;> first | rfl | cases mute
  | _ => rfl

theorem dispatchedRun?_of_isMute {id : BindingId} {event : Event} (mute : event.isMute = true) :
    event.dispatchedRun? id = none := by
  cases event <;> first | rfl | cases mute

theorem isMute_of_isIdle {event : Event} (idle : event.isIdle = true) : event.isMute = true := by
  cases event with
  | animated cause => cases cause <;> first | rfl | cases idle
  | _ => first | rfl | cases idle

end Event

/-- The runs on whose behalf a binding was played, the first one first, with repetitions. -/
def playedRuns (id : BindingId) (history : List Event) : List RunId :=
  gather (Event.playedRun? id) history

namespace Stage

/-- A stage on which each plain animation was played once for each of its dispatched runs. -/
def PlaysEach (stage : Stage) : Prop :=
  ∀ id : BindingId, (∀ entry ∈ gather Event.bound? stage.history, entry.1 = id.number →
    entry.2.2.IsPlain) → playedRuns id stage.history = dispatchedRuns id stage.history

theorem PlaysEach.congr {before after : Stage} (each : PlaysEach before)
    (adds : Adds Event.isMute before after) : PlaysEach after := by
  obtain ⟨events, kinds, added⟩ := adds
  intro id plain
  have played : playedRuns id after.history = playedRuns id before.history := by
    rw [added]
    exact gather_append_of_silent fun event here =>
      Event.playedRun?_of_isMute (kinds event here)
  have dispatched : dispatchedRuns id after.history = dispatchedRuns id before.history := by
    rw [added]
    exact filterMap_reverse_append fun event here =>
      Event.dispatchedRun?_of_isMute (kinds event here)
  rw [played, dispatched]
  refine each id fun entry here => plain entry ?_
  rw [added, gather_append]
  exact List.mem_append_left _ here

/-- A dispatch plays nothing on behalf of the runs of other bindings. -/
theorem Dispatches.playedRuns_other {run : RunId} {binding : Binding} {resolved : Fields Value}
    {before after : Stage} (dispatches : Dispatches run binding resolved before after)
    {id : BindingId} (different : binding.id ≠ id) :
    playedRuns id after.history = playedRuns id before.history := by
  obtain ⟨late, early, kinds, notices, added⟩ := dispatches.history
  have silent : ∀ event, Event.isNotice event = true → Event.playedRun? id event = none :=
    fun event notice => Event.playedRun?_of_isMute
      (Event.isMute_of_isIdle (Event.isIdle_of_isNotice notice))
  rw [playedRuns, added, gather_append_of_silent, gather_cons, gather_append_of_silent]
  · exact List.append_nil _
  · exact fun event here => silent event (notices event here)
  · intro event here
    rcases kinds event here with notice | play
    · exact silent event notice
    · cases event with
      | animated cause =>
        cases cause with
        | run number other name =>
          simp only [Event.isPlayOf, Bool.and_eq_true, decide_eq_true_eq] at play
          rw [Event.playedRun?, play.2.1, if_neg different]
        | replay => rfl
        | direct => rfl
      | _ => rfl

/-- **The dispatch of a plain animation plays it once.** -/
theorem playedRuns_dispatch {stage : Stage} {binding : Binding}
    (found : stage.binding? binding.id = some binding) (plain : binding.animation.IsPlain)
    (run : RunId) (reason : RunReason) (resolved : Fields Value) :
    playedRuns binding.id (stage.dispatch run binding.id reason resolved).1.history =
      playedRuns binding.id stage.history ++ [run] := by
  obtain ⟨touched, still⟩ := (prepare_dispatches stage run binding resolved).binding? found
  have unregistered : (stage.prepare run binding resolved).2 = none := by
    unfold prepare
    rw [plain.nameless]
  have prepared : playedRuns binding.id (stage.prepare run binding resolved).1.history =
      playedRuns binding.id stage.history := by
    obtain ⟨late, early, noticed, notices, added⟩ := history_prepare stage run binding resolved
    have silent {event : Event} (notice : event.isNotice = true) :
        event.playedRun? binding.id = none :=
      Event.playedRun?_of_isMute (Event.isMute_of_isIdle (Event.isIdle_of_isNotice notice))
    rw [playedRuns, added, gather_append_of_silent fun event here => silent (noticed event here),
      gather_cons, gather_append_of_silent fun event here => silent (notices event here)]
    exact List.append_nil _
  rw [dispatch_eq found]
  dsimp only
  rw [if_pos plain.untriggered, unregistered, if_neg (by simp), history_play still, playedRuns,
    gather_cons, Event.playedRun?, if_pos rfl]
  exact congrArg (· ++ [run]) prepared

theorem advance_playsEach {stage : Stage} {binding : Binding} (enrolled : Enrolled stage)
    (found : stage.binding? binding.id = some binding) (each : PlaysEach stage) (run : RunId)
    (reason : RunReason) (outcome : Except ResolveError Resolution) :
    PlaysEach (stage.advance run binding reason outcome).1 := by
  match outcome with
  | .ok (.pending options) => exact each.congr (Adds.refl _ stage)
  | .error error =>
    exact each.congr ⟨[.reported _, .failed run binding.id error], by simp [Event.isMute], rfl⟩
  | .ok (.ready resolved) =>
    have dispatches := dispatch_dispatches found run reason resolved
    have same : gather Event.bound? (stage.dispatch run binding.id reason resolved).1.history =
        gather Event.bound? stage.history :=
      (advance_accounts found run reason (.ok (.ready resolved))).bound.trans (List.append_nil _)
    intro id plain
    show playedRuns id (stage.dispatch run binding.id reason resolved).1.history =
      dispatchedRuns id (stage.dispatch run binding.id reason resolved).1.history
    have before : playedRuns id stage.history = dispatchedRuns id stage.history :=
      each id fun entry here => plain entry (same.symm ▸ here)
    rw [dispatches.dispatchedRuns_eq, ← before]
    by_cases own : binding.id = id
    · subst own
      have bound := enrolled.bound binding (mem_bindings_of_binding? found).1
      rw [if_pos rfl, playedRuns_dispatch found (plain _ (same.symm ▸ bound) rfl)]
    · rw [if_neg own, List.append_nil, dispatches.playedRuns_other own]

theorem schedule_playsEach {stage : Stage} (enrolled : Enrolled stage) (each : PlaysEach stage)
    (id : BindingId) (reason : RunReason) : PlaysEach (stage.schedule id reason).1 := by
  refine schedule_cases (motive := PlaysEach) stage id reason each ?_
  intro binding found _ outcome
  have started : PlaysEach (stage.start binding reason) := each.congr (.single rfl rfl)
  exact advance_playsEach ((start_steady stage binding reason).enrolled enrolled) found
    started _ reason outcome

theorem pollRun_playsEach {state : Stage × Nat} (enrolled : Enrolled state.1)
    (each : PlaysEach state.1) (waiting : PendingRun) :
    PlaysEach (pollRun state waiting).1 := by
  refine pollRun_cases (motive := PlaysEach) state waiting (each.congr (.single rfl rfl)) ?_
  intro binding found _ outcome
  have polled : PlaysEach (state.1.polled waiting) := each.congr (Adds.refl _ state.1)
  exact advance_playsEach ((polled_steady state.1 waiting).enrolled enrolled) found polled _ _
    outcome

theorem step_playsEach {told : Option BindingId} {before after : Stage}
    (step : Step told before after) (enrolled : Enrolled before) (each : PlaysEach before) :
    PlaysEach after := by
  have idle {kind : Event → Bool} {later : Stage} (adds : Adds kind before later)
      (idles : ∀ event, kind event = true → event.isIdle = true) : PlaysEach later :=
    each.congr (adds.mono fun event is => Event.isMute_of_isIdle (idles event is))
  cases step with
  | unbound passes => exact idle passes.adds fun _ => Event.isIdle_of_isUnbound
  | released chosen =>
    exact idle (release_releases before chosen).adds fun _ => Event.isIdle_of_isEnding
  | installed label animation chain =>
    exact schedule_playsEach (bind_enrolled enrolled label animation chain)
      (idle (bind_binds before label animation chain).adds fun _ => Event.isIdle_of_isBeginning)
      _ .initial
  | changed tells => exact schedule_playsEach enrolled each _ .sourceChanged
  | entered here responds =>
    rename_i binding
    rw [enter_eq]
    exact schedule_playsEach ((lookAt_steady before binding).enrolled enrolled)
      (idle (lookAt_looks before binding).adds fun _ => Event.isIdle_of_isEnding) _ .enteredView
  | tornDown element gone =>
    exact each.congr (.single rfl rfl)

/-- **Plain animations are played at every run**, after any operations. -/
theorem performAll_playsEach {stage : Stage} (sound : Sound stage [])
    (enrolled : Enrolled stage) (each : PlaysEach stage) (operations : List Operation) :
    PlaysEach (stage.performAll operations) := by
  refine (performAll_invariant (fun stage queue =>
      Sound stage queue ∧ Enrolled stage ∧ PlaysEach stage)
    (fun _ all => all.1.distinct) ?_ ?_ ?_ operations stage ⟨sound, enrolled, each⟩).2.2
  · rintro stage ⟨sound, enrolled, each⟩
    exact ⟨takeUp_sound sound, (takeUp_steady stage).enrolled enrolled,
      each.congr (Adds.refl _ stage)⟩
  · rintro stage waiting queue plays ⟨sound, enrolled, each⟩
    exact ⟨pollRun_sound sound plays, (pollRun_steady (stage, plays) waiting).enrolled enrolled,
      pollRun_playsEach enrolled each waiting⟩
  · rintro told before after step ⟨sound, enrolled, each⟩
    exact ⟨step_sound step sound, step_enrolled step sound enrolled,
      step_playsEach step enrolled each⟩

/-! ## The end of every run -/

/-- **No run is lost and none is made twice.**  After any operations on a new stage:

* the next operation schedules exactly the runs it asks for, under the next numbers, and
  binds exactly the animations of its directive;
* the runs are numbered in the order of their schedule, and each was dispatched once, or
  has failed once, or was dropped once, or waits once; those that wait stand in the order of
  their schedule;
* a run was dropped only with its binding, and each failure was reported as one error, in
  turn; nothing else was;
* an animation without a name and without triggers was played once for each of its
  dispatched runs. -/
theorem runs_conserved (settings : Settings) (data : Store) (source : HelperSupply)
    (operations : List Operation) :
    let stage := (new settings data source).performAll operations
    let history := stage.history
    (∀ operation, gather Event.scheduled? (stage.perform operation).history =
        gather Event.scheduled? history ++ numbered stage.runCount (stage.demands operation) ∧
      gather Event.bound? (stage.perform operation).history =
        gather Event.bound? history ++ numbered stage.bindingCount (stage.arrivals operation)) ∧
    (scheduledAll history).map Prod.fst = List.range' 1 stage.runCount ∧
    (scheduledAll history).Perm (dispatchedAll history ++ failedAll history ++
      droppedAll history ++ entries stage.pending) ∧
    stage.pending.Pairwise (fun first second => first.run < second.run) ∧
    (∀ entry ∈ droppedAll history, Event.released entry.2 ∈ history) ∧
    List.Forall₂ Tells (gather Event.failed? history)
      ((gather Event.reported? history).filter fun diagnostic => diagnostic.level = .error) ∧
    (∀ operation, operation ≠ .clearDiagnostics → ∃ reports,
      (stage.perform operation).diagnostics = stage.diagnostics ++ reports ∧
      gather Event.reported? (stage.perform operation).history =
        gather Event.reported? history ++ reports) ∧
    ∀ id label animation, Event.bound id label animation ∈ history → animation.IsPlain →
      playedRuns id history = dispatchedRuns id history := by
  intro stage history
  have begun := new_sound settings data source
  have sound : Sound stage [] := performAll_sound begun operations
  have subscribed : Subscribed stage :=
    performAll_subscribed begun (new_subscribed settings data source) operations
  have enrolled : Enrolled stage :=
    performAll_enrolled begun (new_enrolled settings data source) operations
  have ledger : Ledger stage (entries stage.pending) :=
    performAll_ledger begun (new_ledger settings data source) operations
  have told : ToldAll stage :=
    performAll_toldAll operations begun (new_subscribed settings data source) .nil
  have each : PlaysEach stage :=
    performAll_playsEach begun (new_enrolled settings data source) (fun _ _ => rfl) operations
  refine ⟨?_, ledger.numbers, ?_, ?_, ledger.released, told, ?_, ?_⟩
  · intro operation
    by_cases clears : operation = .clearDiagnostics
    · subst clears
      exact ⟨(List.append_nil _).symm, (List.append_nil _).symm⟩
    · have accounts := perform_accounts subscribed operation clears
      exact ⟨accounts.scheduled, accounts.bound⟩
  · rw [List.perm_iff_count]
    intro entry
    rw [List.count_append, List.count_append, List.count_append]
    exact ledger.balanced entry
  · have ordered := sound.ordered
    rwa [List.append_nil] at ordered
  · intro operation keeps
    obtain ⟨reports, failures, reported⟩ := (perform_accounts subscribed operation keeps).reports
    exact ⟨reports, reported.diagnostics, reported.reported⟩
  · intro id label animation bound plain
    -- the number of the binding was given out once, so there is no other animation
    refine each id fun entry here same => ?_
    obtain ⟨number, given⟩ := entry
    subst same
    rw [enrolled.unique here (mem_gather_bound.mpr bound)]
    exact plain

namespace WaitingSpring

/-- A stage whose helpers arrive with the second poll of any run. -/
def begun : Stage :=
  .new .standard [[("k", .number (Number.ofNat 1))]] (Helper.builtinSource 2)

/-- A directive is applied that passes data to a helper, its data changes, and a tick
brings the helper to the second run. -/
def operations : List Operation :=
  [.apply ⟨1⟩ ⟨none, [], "{x: spring(k)}"⟩ [0], .input (.sourceChanged ⟨1⟩), .tick]

end WaitingSpring

open WaitingSpring in
/-- One run is dispatched and played while the other still waits. -/
theorem runs_conserved_while_one_waits :
    let stage := begun.performAll operations
    (∃ label animation, Event.bound ⟨1⟩ label animation ∈ stage.history ∧ animation.IsPlain) ∧
      (scheduledAll stage.history).Perm
        ([(2, ⟨1⟩)] ++ failedAll stage.history ++ droppedAll stage.history ++ [(1, ⟨1⟩)]) ∧
      playedRuns ⟨1⟩ stage.history = [2] := by
  intro stage
  have bound : ∃ binding ∈ stage.bindings, binding.id = ⟨1⟩ ∧
      binding.animation.name = none ∧ binding.animation.triggers.isEmpty = true := by
    decide +kernel
  have dispatched : dispatchedAll stage.history = [(2, ⟨1⟩)] := by decide +kernel
  have played : dispatchedRuns ⟨1⟩ stage.history = [2] := by decide +kernel
  have waiting : entries stage.pending = [(1, ⟨1⟩)] := by decide +kernel
  obtain ⟨binding, here, own, nameless, untriggered⟩ := bound
  have enrolled : Enrolled stage := performAll_enrolled (new_sound _ _ _) (new_enrolled _ _ _) _
  have began : Event.bound ⟨1⟩ binding.label binding.animation ∈ stage.history :=
    own ▸ mem_gather_bound.mp (enrolled.bound binding here)
  obtain ⟨-, -, conserved, -, -, -, -, plays⟩ := runs_conserved .standard
    [[("k", .number (Number.ofNat 1))]] (Helper.builtinSource 2) operations
  refine ⟨⟨_, _, began, nameless, untriggered⟩, ?_, ?_⟩
  · rw [← dispatched, ← waiting]
    exact conserved
  · rw [← played]
    exact plays ⟨1⟩ _ _ began ⟨nameless, untriggered⟩

end Stage

end Choreography
