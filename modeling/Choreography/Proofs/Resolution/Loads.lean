import Choreography.Proofs.Resolution.Requests

/-!
# Each helper is loaded once

A helper is requested from the source when it is first called, and never again once the source
has offered it.  So there is one delivery for each helper at most, and everything that is
answered was made with it.  **`Session.loads_once` says so of every session**: of whatever is
asked of a resolver, and whatever is polled, in any order, with any source.

`Move` lists what a step can do.  Each move keeps the ledger of requests (`Ledger.move`), keeps
what waits fitting what was asked for, and tells outcomes that are honest (`Fits.move`);
`History` is what all of it comes to.
-/

namespace Choreography

namespace Session

variable {session : Session} {events : List Event}

/-! ## Errands and their helpers -/

theorem begin_asks (source : HelperSource) (scope : Scope) (loader : Loader) (errand : Errand) :
    Asks source loader (errand.begin source scope loader).1 := by
  cases errand with
  | ofCall call => exact Sketch.ofCall_relates (demands_asks source) loader call
  | ofOptions options =>
    exact Template.resolve_relates (demands_asks source) scope loader options

theorem begin_precedes (source : HelperSource) (scope : Scope) (loader : Loader)
    (errand : Errand) : loader.Precedes (errand.begin source scope loader).1 := by
  have demands := Sketch.demands_grows source
  cases errand with
  | ofCall call => exact (Sketch.ofCall_relates demands loader call : Loader.Grows _ _).precedes
  | ofOptions options => exact (Template.resolve_grows source scope loader options).precedes

theorem poll_keepsLedger (loader : Loader) (waiting : Waiting) :
    ∀ events, Ledger loader events → Ledger (waiting.poll loader).1 events := by
  cases waiting with
  | ofCall call => exact polls_keepsLedger.call loader call
  | ofOptions options => exact Sketch.pollFields_relates polls_keepsLedger loader options

theorem poll_precedes (loader : Loader) (waiting : Waiting) :
    loader.Precedes (waiting.poll loader).1 := by
  cases waiting with
  | ofCall call => exact (Sketch.pollCall_narrows loader call).precedes
  | ofOptions options => exact PendingOptions.poll_precedes loader options

/-! ## One step -/

/-- What a step does to a session, and the events of it. -/
inductive Move (session : Session) : Session → List Event → Prop
  | begun (source : HelperSource) (scope : Scope) (errand : Errand) :
    Move session
      ⟨(errand.begin source scope session.loader).1, session.tasks ++
        [(errand.begin source scope session.loader).2.task? scope errand]⟩
      (requestsBetween source session.loader (errand.begin source scope session.loader).1 ++
        (errand.begin source scope session.loader).2.events scope errand)
  | polled {index : Nat} {task : Task} (found : session.tasks[index]? = some (some task)) :
    Move session
      ⟨(task.waiting.poll session.loader).1, session.tasks.set index
        ((task.waiting.poll session.loader).2.task? task.scope task.errand)⟩
      ((task.waiting.poll session.loader).2.events task.scope task.errand)
  | delivered {name : String} {delivery : Option Helper} {loader : Loader}
      (delivers : session.loader.deliver? name delivery = some loader) :
    Move session ⟨loader, session.tasks⟩ [.delivered name delivery]
  | asked (name : String) :
    Move session session [.asked name (session.loader.isLoaded name)]
  | idle : Move session session []

theorem step_move (session : Session) (action : Action) :
    Move session (session.step action).1 (session.step action).2 := by
  cases action with
  | begin source scope errand => exact .begun source scope errand
  | ask name => exact .asked name
  | poll index =>
    rw [step]
    split
    · rename_i task found
      exact .polled found
    · exact .idle
  | deliver name delivery =>
    rw [step]
    split
    · rename_i loader delivers
      exact .delivered delivers
    · exact .idle

/-- What was requested is told as requested. -/
theorem eq_of_mem_requestsBetween {source : HelperSource} {loader later : Loader}
    {event : Event} (here : event ∈ requestsBetween source loader later) :
    ∃ name, event = .requested name (source name) := by
  obtain ⟨name, -, same⟩ := List.mem_map.mp here
  exact ⟨name, same.symm⟩

/-- An errand tells nothing but its outcome. -/
theorem Standing.of_mem_events {standing : Standing} {scope : Scope} {errand : Errand}
    {event : Event} (here : event ∈ standing.events scope errand) :
    ∃ outcome, standing = .done outcome ∧ event = .finished scope errand outcome := by
  cases standing with
  | waits => cases here
  | done outcome => exact ⟨outcome, rfl, List.mem_singleton.mp here⟩

theorem Standing.quiet_events {standing : Standing} {scope : Scope} {errand : Errand} :
    ∀ event ∈ standing.events scope errand, event.IsQuiet := by
  intro event here
  obtain ⟨outcome, -, rfl⟩ := of_mem_events here
  exact trivial

section

variable {next : Session} {told : List Event} (moves : Move session next told)

include moves

/-- **One step keeps the ledger.** -/
theorem Ledger.move (ledger : Ledger session.loader events) :
    Ledger next.loader (events ++ told) := by
  cases moves with
  | begun source scope errand =>
    rw [← List.append_assoc]
    exact ((begin_asks source scope session.loader errand).ledger events ledger).append_quiet
      Standing.quiet_events
  | @polled index task found =>
    exact (poll_keepsLedger session.loader task.waiting events ledger).append_quiet
      Standing.quiet_events
  | delivered delivers => exact ledger.deliver delivers
  | asked name =>
    refine ledger.append_quiet fun event here => ?_
    rw [List.mem_singleton.mp here]
    exact trivial
  | idle =>
    rw [List.append_nil]
    exact ledger

theorem Move.precedes : session.loader.Precedes next.loader := by
  cases moves with
  | begun source scope errand => exact begin_precedes source scope session.loader errand
  | polled => exact poll_precedes session.loader _
  | delivered delivers => exact Loader.deliver?_precedes delivers
  | asked => exact .refl _
  | idle => exact .refl _

/-- Whether a helper is here is as was said. -/
theorem Move.isLoaded_of_asked {name : String} {loaded : Bool}
    (asked : .asked name loaded ∈ told) : session.loader.isLoaded name = loaded := by
  cases moves with
  | begun =>
    rcases List.mem_append.mp asked with requested | finished
    · obtain ⟨_, same⟩ := eq_of_mem_requestsBetween requested
      cases same
    · obtain ⟨_, -, same⟩ := Standing.of_mem_events finished
      cases same
  | polled =>
    obtain ⟨_, -, same⟩ := Standing.of_mem_events asked
    cases same
  | delivered => cases List.mem_singleton.mp asked
  | asked =>
    cases List.mem_singleton.mp asked
    rfl
  | idle => cases asked

end

/-- Everything that still waits fits what was asked for. -/
def Fits (session : Session) : Prop :=
  ∀ task, some task ∈ session.tasks → task.Fits session.loader

namespace Standing.Fits

variable {loader : Loader} {scope : Scope} {errand : Errand} {standing : Standing}
  (fits : standing.Fits loader scope errand)

include fits

theorem task {task : Task} (left : standing.task? scope errand = some task) :
    task.Fits loader := by
  cases fits with
  | done => cases left
  | waits fits =>
    cases left
    exact fits

theorem honest {scope' : Scope} {errand' : Errand} {outcome : Except ResolveError Answer}
    (finished : .finished scope' errand' outcome ∈ standing.events scope errand) :
    Honest loader scope' errand' outcome := by
  obtain ⟨outcome, rfl, same⟩ := of_mem_events finished
  cases same
  cases fits with
  | done honest => exact honest

end Standing.Fits

/-- **One step** keeps what waits fitting, and its outcomes are honest. -/
theorem Fits.move {next : Session} {told : List Event} (fits : session.Fits)
    (moves : Move session next told) :
    next.Fits ∧ ∀ scope errand outcome, .finished scope errand outcome ∈ told →
      Honest next.loader scope errand outcome := by
  have kept : ∀ task, some task ∈ session.tasks → task.Fits next.loader :=
    fun task here => (fits task here).of_precedes moves.precedes
  -- only the task that moves has to be looked at, and only it can finish
  cases moves with
  | begun source scope errand =>
    have stands := begin_fits source scope session.loader errand
    refine ⟨?_, ?_⟩
    · intro task here
      rcases List.mem_append.mp here with early | last
      · exact kept task early
      · exact stands.task (List.mem_singleton.mp last).symm
    · intro scope' errand' outcome finished
      rcases List.mem_append.mp finished with requested | finished
      · obtain ⟨_, same⟩ := eq_of_mem_requestsBetween requested
        cases same
      · exact stands.honest finished
  | polled found =>
    have stands := poll_fits (fits _ (List.mem_of_getElem? found))
    refine ⟨?_, fun _ _ _ finished => stands.honest finished⟩
    intro task here
    rcases List.mem_or_eq_of_mem_set here with early | last
    · exact kept task early
    · exact stands.task last.symm
  | delivered =>
    refine ⟨kept, fun scope errand outcome finished => ?_⟩
    cases List.mem_singleton.mp finished
  | asked =>
    refine ⟨fits, fun scope errand outcome finished => ?_⟩
    cases List.mem_singleton.mp finished
  | idle => exact ⟨fits, nofun⟩

/-! ## Whole sessions -/

/-- A helper that was said to be here is said to be here. -/
def StaysLoaded (early late : Event) : Prop :=
  ∀ name loaded, early = .asked name true → late = .asked name loaded → loaded = true

/-- What holds of a session and the events that led to it. -/
structure History (session : Session) (events : List Event) : Prop where
  ledger : Ledger session.loader events
  fits : session.Fits
  answered : ∀ scope errand answer, .finished scope errand (.ok answer) ∈ events →
    ∀ supply, Supplies supply session.loader → errand.answer? supply scope = some answer
  loaded : ∀ name, .asked name true ∈ events → session.loader.isLoaded name = true
  stays : events.Pairwise StaysLoaded

theorem History.empty : History .empty [] :=
  ⟨.empty, nofun, nofun, nofun, .nil⟩

theorem History.move {next : Session} {told : List Event} (history : History session events)
    (moves : Move session next told) : History next (events ++ told) := by
  obtain ⟨fits, honest⟩ := history.fits.move moves
  refine ⟨history.ledger.move moves, fits, ?_, ?_, ?_⟩
  · intro scope errand answer finished supply supplies
    rcases List.mem_append.mp finished with early | now
    · exact history.answered scope errand answer early supply
        (supplies.of_precedes moves.precedes)
    · exact (honest scope errand _ now).answered answer rfl supply supplies
  · intro name asked
    refine moves.precedes.isLoaded ?_
    rcases List.mem_append.mp asked with early | now
    · exact history.loaded name early
    · exact moves.isLoaded_of_asked now
  · refine List.pairwise_append.mpr ⟨history.stays, ?_, ?_⟩
    · refine List.pairwise_of_forall_mem_list fun early here late now => ?_
      rintro name loaded rfl rfl
      rw [← moves.isLoaded_of_asked now, moves.isLoaded_of_asked here]
    · rintro early here late now name loaded rfl rfl
      rw [← moves.isLoaded_of_asked now]
      exact history.loaded name here

theorem History.run (history : History session events) (actions : List Action) :
    History (session.run actions).1 (events ++ (session.run actions).2) := by
  induction actions generalizing session events with
  | nil =>
    rw [Session.run, List.append_nil]
    exact history
  | cons action rest ih =>
    have later := ih (history.move (session.step_move action))
    rw [List.append_assoc] at later
    exact later

theorem Errand.answer?_eq_none {supply : String → Option Helper} {name : String}
    (absent : supply name = none) (errand : Errand) (called : name ∈ errand.helpers)
    (scope : Scope) : errand.answer? supply scope = none := by
  cases errand with
  | ofCall call =>
    rw [Errand.helpers, List.mem_singleton] at called
    rw [Errand.answer?, Template.answer?_call_eq_none (called ▸ absent), Option.map_none]
  | ofOptions options =>
    rw [Errand.answer?, Template.fieldAnswers?_eq_none absent options called, Option.map_none]

/-- **Once nothing was delivered for a helper**, whatever calls it fails, and a call of it is
refused. -/
theorem refused_of_unavailable {name : String} (fits : session.Fits)
    (unavailable : session.loader.arrival? name = some .unavailable) (actions : List Action)
    {scope : Scope} {errand : Errand} {outcome : Except ResolveError Answer}
    (finished : .finished scope errand outcome ∈ (session.run actions).2)
    (called : name ∈ errand.helpers) :
    (∀ answer, outcome ≠ .ok answer) ∧
      ∀ call, errand = .ofCall call → outcome = .error (refusal scope call) := by
  induction actions generalizing session with
  | nil => cases finished
  | cons action rest ih =>
    have moves := session.step_move action
    obtain ⟨still, honest⟩ := fits.move moves
    have unavailable := moves.precedes.settled name .unavailable unavailable rfl
    rcases List.mem_append.mp finished with now | later
    · have answered := (honest scope errand outcome now).answered
      refine ⟨?_, ?_⟩
      · rintro answer rfl
        have absent : (session.step action).1.loader.delivered? name = none := by
          rw [Loader.delivered?, unavailable]
        have some_ := answered answer rfl _ (supplies_delivered? _)
        rw [errand.answer?_eq_none absent called] at some_
        cases some_
      · rintro call rfl
        rw [Errand.helpers, List.mem_singleton] at called
        exact (honest scope _ outcome now).refused call rfl (called ▸ unavailable)
    · exact ih still unavailable later

/-- **Each helper is loaded once**, whatever is done with a resolver.

* A source that has offered a helper is not asked for it again.
* What is answered was made with the one helper that was delivered for each name.
* Once nothing was delivered for a helper, every errand that calls it fails, and a call of it
  is refused: for its arguments if they have no values, for the helper if they have.
* A helper that was said to be here is said to be here ever after. -/
theorem loads_once (actions more : List Action) :
    ((empty.run actions).2 ++ ((empty.run actions).1.run more).2).Pairwise AskedOnce ∧
    (∃ supply : String → Option Helper,
      (∀ name helper, supply name = some helper →
        deliveries name ((empty.run actions).2 ++ ((empty.run actions).1.run more).2) =
          [some helper]) ∧
      ∀ scope errand answer,
        .finished scope errand (.ok answer) ∈
          (empty.run actions).2 ++ ((empty.run actions).1.run more).2 →
        errand.answer? supply scope = some answer) ∧
    (∀ name, (empty.run actions).1.loader.arrival? name = some .unavailable →
      ∀ scope errand outcome,
        .finished scope errand outcome ∈ ((empty.run actions).1.run more).2 →
        name ∈ errand.helpers →
        (∀ answer, outcome ≠ .ok answer) ∧
          ∀ call, errand = .ofCall call → outcome = .error (refusal scope call)) ∧
    ((empty.run actions).2 ++ ((empty.run actions).1.run more).2).Pairwise StaysLoaded := by
  have first := History.empty.run actions
  rw [List.nil_append] at first
  have whole := first.run more
  refine ⟨whole.ledger.once, ⟨((empty.run actions).1.run more).1.loader.delivered?, ?_, ?_⟩,
    ?_, whole.stays⟩
  · intro name helper supplied
    rw [whole.ledger.delivered]
    rw [Loader.delivered?] at supplied
    split at supplied
    · rename_i here
      cases supplied
      rw [here]
      rfl
    · cases supplied
  · intro scope errand answer finished
    exact whole.answered scope errand answer finished _ (supplies_delivered? _)
  · intro name unavailable scope errand outcome finished called
    exact refused_of_unavailable first.fits unavailable more finished called

/-- Although it was seen that nothing was delivered, a call is refused for its arguments if they
have no values. -/
theorem refused_for_arguments :
    let load : HelperSource := fun _ => .later none
    let call : Call := ⟨"ease", "@"⟩
    let past := empty.run
      [.begin load [[]] (.ofCall ⟨"ease", ""⟩), .deliver "ease" none, .poll 0]
    past.1.loader.arrival? "ease" = some .unavailable ∧
      .finished [[]] (.ofCall call)
          (.error (.arguments "ease" (.parse (.unexpectedChar 0 '@')))) ∈
        (past.1.run [.begin load [[]] (.ofCall call)]).2 := by
  intro load call past
  have finished : past.1 = ⟨⟨[("ease", .unavailable)], ["ease"]⟩, [none]⟩ := rfl
  rw [finished]
  refine ⟨rfl, ?_⟩
  have spelled : call.arguments.toList = ['@'] := by decide
  have read : Arguments.read [[]] call.arguments = .error (.unexpectedChar 0 '@') := by
    rw [Arguments.read, spelled]
    rfl
  simp only [run, step, Errand.begin, Sketch.ofCall, Arguments.evaluate, read, List.append_nil]
  exact List.mem_append_right _ (List.mem_singleton.mpr rfl)

end Session

end Choreography
