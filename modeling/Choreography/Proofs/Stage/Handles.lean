import Choreography.Helper.Catalogue
import Choreography.Proofs.Stage.Attribution
import Choreography.Proofs.Stage.Turns

/-!
# Handles

The engine answers every play with a handle.  A dispatch plays up to twice, notes each handle in
the binding and under its name, passes it on where a scroll position is linked, and counts its
plays.  **What is noted, passed on and counted is what the engine was asked for and has
answered** (`handles_faithful`).

`Performs` says what a dispatch asks of the engine, play by play, where each play finds its
binding; everything else follows by induction on it (`Performs.delivers`, `Performs.linked`).
-/

namespace Choreography

/-- Whether a run of a binding is the cause of a play. -/
def Cause.isOfRun : Cause → Bool
  | .run .. => true
  | _ => false

namespace Event

/-- The play that an event asks for, with the handle that the engine gave for it. -/
def animated? : Event → Option (Cause × Handle × ElementId)
  | .animated cause handle element _ => some (cause, handle, element)
  | _ => none

/-- Whether an event links a scroll position. -/
def isLink : Event → Bool
  | .linkedScroll .. => true
  | _ => false

variable {event : Event}

theorem animated?_of_isNotice (notice : event.isNotice = true) : event.animated? = none := by
  cases event <;> first | rfl | cases notice

theorem isLink_of_isNotice (notice : event.isNotice = true) : event.isLink = false := by
  cases event <;> first | rfl | cases notice

theorem isLink_of_isOutside (outside : event.isOutside = true) : event.isLink = false := by
  cases event <;> first | rfl | cases outside

end Event

namespace Stage

/-! ## One play -/

/-- **What a play makes of a stage** on which its binding is found. -/
theorem play_eq {stage : Stage} {id : BindingId} {binding : Binding}
    (found : stage.binding? id = some binding) (run : RunId) (options : Fields Value) :
    stage.play run id options =
      ({ stage with
          handleCount := stage.handleCount + 1
          bindings := stage.bindings.map fun other =>
            if other.id = id then
              { other with lastRun := some (Handle.mk (stage.handleCount + 1)) }
            else other
          registry := match binding.animation.name with
            | some name => stage.registry.setLastRun name ⟨stage.handleCount + 1⟩
            | none => stage.registry
          history := .animated (.run run id binding.animation.name) ⟨stage.handleCount + 1⟩
            binding.element options :: stage.history },
        ⟨stage.handleCount + 1⟩) := by
  unfold play
  rw [found]
  dsimp only
  split <;> rename_i named <;> rw [named] <;> rfl

/-- After a play its binding is found with the handle of the play. -/
theorem binding?_play {stage : Stage} {id : BindingId} {binding : Binding}
    (found : stage.binding? id = some binding) (run : RunId) (options : Fields Value) :
    (stage.play run id options).1.binding? id =
      some { binding with lastRun := some ⟨stage.handleCount + 1⟩ } := by
  have own := (mem_bindings_of_binding? found).2
  have touches := Touches.ite id Binding.options fun _ => some (Handle.mk (stage.handleCount + 1))
  rw [play_eq found]
  show (List.map _ stage.bindings).find? _ = _
  rw [find?_touched touches]
  exact (congrArg (Option.map _) found).trans (congrArg some (if_pos own))

/-! ## The plays of a dispatch -/

section

variable (run : RunId) (id : BindingId) (options : Fields Value) (link : ScrollLink)

/-- A number of plays of a run, each of a binding that is found.  A play may be followed, at once,
by a linked scroll position that is passed its handle. -/
inductive Performs : Nat → Stage → Stage → Prop
  | nothing (stage : Stage) : Performs 0 stage stage
  | played {count : Nat} {before between : Stage} {binding : Binding}
    (early : Performs count before between) (found : between.binding? id = some binding) :
    Performs (count + 1) before (between.play run id options).1
  | linked {count : Nat} {before between : Stage} {binding : Binding}
    (early : Performs count before between) (found : between.binding? id = some binding) :
    Performs (count + 1) before ((between.play run id options).1.record
      (.linkedScroll id (between.play run id options).2 link))

variable {run id options link} {count : Nat} {first : Stage}

/-- What a trigger makes a run do is performed, and counted. -/
theorem Performs.applyTrigger {reason : RunReason} {view : ViewState} {state : Stage × Nat}
    {binding : Binding} (early : Performs run id options link state.2 first state.1)
    (found : state.1.binding? id = some binding) (trigger : Trigger) :
    Performs run id options link
      (applyTrigger run id reason view options link state trigger).2 first
      (applyTrigger run id reason view options link state trigger).1 := by
  cases trigger with
  | visible =>
    rw [applyTrigger_visible]
    split
    · exact .played early found
    · exact early
  | scroll =>
    rw [applyTrigger_scroll]
    split
    · exact early
    · exact .linked early found

theorem Performs.foldl_applyTrigger {reason : RunReason} {view : ViewState}
    (triggers : List Trigger) (state : Stage × Nat) {binding : Binding}
    (early : Performs run id options link state.2 first state.1)
    (found : state.1.binding? id = some binding) :
    Performs run id options link
      (triggers.foldl (Stage.applyTrigger run id reason view options link) state).2 first
      (triggers.foldl (Stage.applyTrigger run id reason view options link) state).1 := by
  induction triggers generalizing state binding with
  | nil => exact early
  | cons trigger rest ih =>
    obtain ⟨played, still⟩ :=
      (applyTrigger_plays run reason view options link state trigger).binding? found
    exact ih _ (early.applyTrigger found trigger) still

end

/-- The binding whose options were just written is still found, with its animation. -/
theorem binding?_prepare {stage : Stage} {binding : Binding}
    (found : stage.binding? binding.id = some binding) (run : RunId) (resolved : Fields Value) :
    ∃ current, (stage.prepare run binding resolved).1.binding? binding.id = some current ∧
      current.animation = binding.animation := by
  obtain ⟨change, touches, -, changed⟩ := (prepare_dispatches stage run binding resolved).bindings
  refine ⟨change binding, ?_, touches.animation_eq binding⟩
  rw [Stage.binding?, changed, find?_touched touches]
  exact congrArg (Option.map change) found

/-- **A dispatch performs the plays that it counts**, and finds its binding at each of them. -/
theorem dispatch_performs {stage : Stage} {binding : Binding}
    (found : stage.binding? binding.id = some binding) (run : RunId) (reason : RunReason)
    (resolved : Fields Value) :
    Performs run binding.id (ScrollLink.otherFields resolved)
      (ScrollLink.ofFields stage.settings.scrollAxis resolved)
      (stage.dispatch run binding.id reason resolved).2 (stage.prepare run binding resolved).1
      (stage.dispatch run binding.id reason resolved).1 := by
  obtain ⟨current, still, -⟩ := binding?_prepare found run resolved
  rw [dispatch_eq found]
  dsimp only
  split
  · split
    · exact .nothing _
    · exact .played (.nothing _) still
  · exact Performs.foldl_applyTrigger _ (_, 0) (.nothing _) still

/-! ## What the plays deliver -/

/-- The plays of a run of a binding that the engine has answered with the handles after a number
of them. -/
def callsAfter (handles : Nat) (run : RunId) (binding : Binding) (count : Nat) :
    List (Cause × Handle × ElementId) :=
  (List.range' (handles + 1) count).map fun number =>
    (.run run binding.id binding.animation.name, ⟨number⟩, binding.element)

theorem callsAfter_succ (handles : Nat) (run : RunId) (binding : Binding) (count : Nat) :
    callsAfter handles run binding (count + 1) = callsAfter handles run binding count ++
      [(.run run binding.id binding.animation.name, ⟨handles + count + 1⟩, binding.element)] := by
  rw [callsAfter, List.range'_1_concat, List.map_append, Nat.add_right_comm]
  rfl

/-- What a number of plays of a run of a binding does: the engine was asked for as many and has
answered each, and the last answer is noted in the binding and under the name. -/
structure Delivers (run : RunId) (binding : Binding) (count : Nat) (before after : Stage) :
    Prop where
  handleCount : after.handleCount = before.handleCount + count
  animated : gather Event.animated? after.history =
    gather Event.animated? before.history ++ callsAfter before.handleCount run binding count
  current : ∃ current, after.binding? binding.id = some current ∧
    current.animation = binding.animation ∧
    (0 < count → current.lastRun = some ⟨after.handleCount⟩)
  record : ∀ name, binding.animation.name = some name →
    ∀ found, Fields.get? before.registry name = some found →
      ∃ record, Fields.get? after.registry name = some record ∧
        (0 < count → record.lastRun = some ⟨after.handleCount⟩)

theorem Delivers.nothing {stage : Stage} {run : RunId} {binding current : Binding}
    (found : stage.binding? binding.id = some current)
    (same : current.animation = binding.animation) : Delivers run binding 0 stage stage where
  handleCount := rfl
  animated := (List.append_nil _).symm
  current := ⟨current, found, same, nofun⟩
  record := fun _ _ found there => ⟨found, there, nofun⟩

/-- One more play is one more request, and its handle is the one that is noted. -/
theorem Delivers.played {run : RunId} {binding : Binding} {count : Nat} {before between : Stage}
    (delivers : Delivers run binding count before between) (options : Fields Value) :
    Delivers run binding (count + 1) before (between.play run binding.id options).1 := by
  obtain ⟨current, inForce, same, -⟩ := delivers.current
  have next := delivers.handleCount
  have handles : (between.play run binding.id options).1.handleCount = between.handleCount + 1 := by
    rw [play_eq inForce]
  exact {
    handleCount := by
      rw [handles, next, Nat.add_assoc]
    animated := by
      rw [history_play inForce, gather_cons, delivers.animated, callsAfter_succ, List.append_assoc,
        ← next, same, Binding.element, same]
      rfl
    current := by
      rw [handles]
      exact ⟨_, binding?_play inForce run options, same, fun _ => rfl⟩
    record := by
      intro name own found there
      obtain ⟨record, recorded, -⟩ := delivers.record name own found there
      refine ⟨{ record with lastRun := some ⟨between.handleCount + 1⟩ }, ?_,
        fun _ => by rw [handles]⟩
      rw [play_eq inForce]
      show Fields.get? (match current.animation.name with
        | some name => between.registry.setLastRun name ⟨between.handleCount + 1⟩
        | none => between.registry) name = _
      rw [same, own]
      dsimp only
      rw [Registry.get?_setLastRun, if_pos rfl, recorded]
      rfl }

/-- A linked scroll position delivers nothing more. -/
theorem Delivers.linked {run : RunId} {binding : Binding} {count : Nat} {before after : Stage}
    (delivers : Delivers run binding count before after) (handle : Handle) (link : ScrollLink) :
    Delivers run binding count before (after.record (.linkedScroll binding.id handle link)) :=
  ⟨delivers.handleCount, (gather_cons _).trans ((List.append_nil _).trans delivers.animated),
    delivers.current, delivers.record⟩

theorem Performs.delivers {run : RunId} {binding current : Binding} {options : Fields Value}
    {link : ScrollLink} {count : Nat} {before after : Stage}
    (performs : Performs run binding.id options link count before after)
    (found : before.binding? binding.id = some current)
    (same : current.animation = binding.animation) : Delivers run binding count before after := by
  induction performs with
  | nothing => exact .nothing found same
  | played _ _ ih => exact (ih found).played options
  | linked _ _ ih => exact ((ih found).played options).linked _ link

/-! ## Turns -/

/-- Writing and registering options asks nothing of the engine. -/
theorem handleCount_prepare (stage : Stage) (run : RunId) (binding : Binding)
    (resolved : Fields Value) :
    (stage.prepare run binding resolved).1.handleCount = stage.handleCount := by
  unfold prepare
  rw [note_eq]
  split
  · dsimp only [register]
    rw [note_eq]
    rfl
  · rfl

theorem gather_animated?_prepare (stage : Stage) (run : RunId) (binding : Binding)
    (resolved : Fields Value) :
    gather Event.animated? (stage.prepare run binding resolved).1.history =
      gather Event.animated? stage.history := by
  obtain ⟨late, early, noticed, notices, added⟩ := history_prepare stage run binding resolved
  rw [added, gather_append_of_silent fun event here => Event.animated?_of_isNotice
    (noticed event here), gather_cons, gather_append_of_silent fun event here =>
    Event.animated?_of_isNotice (notices event here)]
  exact List.append_nil _

/-- The name of an animation has a record once its options are registered. -/
theorem get?_registry_prepare (stage : Stage) (run : RunId) {binding : Binding} {name : String}
    (own : binding.animation.name = some name) (resolved : Fields Value) :
    ∃ record, Fields.get? (stage.prepare run binding resolved).1.registry name = some record := by
  rw [registry_prepare, own]
  exact ⟨_, Registry.get?_register _ _ _ _⟩

/-- What a run does in one turn is faithful: the plays that it counts are those that the engine
was asked for, each with the handle that the engine gave, and the handle of the last of them is
noted in the binding and under its name. -/
structure Faithful (run : RunId) (binding : Binding) (plays : Nat) (before after : Stage) :
    Prop where
  handleCount : after.handleCount = before.handleCount + plays
  animated : gather Event.animated? after.history =
    gather Event.animated? before.history ++ callsAfter before.handleCount run binding plays
  lastRun : ∀ call, (callsAfter before.handleCount run binding plays).getLast? = some call →
    (after.binding? binding.id).bind Binding.lastRun = some call.2.1
  named : ∀ call, (callsAfter before.handleCount run binding plays).getLast? = some call →
    ∀ name, binding.animation.name = some name →
      (Fields.get? after.registry name).bind Registry.Record.lastRun = some call.2.1

/-- Where nothing is played, nothing is to be noted. -/
theorem Faithful.idle {run : RunId} {binding : Binding} {before after : Stage}
    (handleCount : after.handleCount = before.handleCount)
    (animated : gather Event.animated? after.history = gather Event.animated? before.history) :
    Faithful run binding 0 before after :=
  ⟨handleCount, animated.trans (List.append_nil _).symm, nofun, nofun⟩

/-- The last of some plays has the last of the handles. -/
theorem handle_of_getLast?_callsAfter {handles count : Nat} {run : RunId} {binding : Binding}
    {call : Cause × Handle × ElementId}
    (last : (callsAfter handles run binding count).getLast? = some call) :
    0 < count ∧ call.2.1 = ⟨handles + count⟩ := by
  cases count with
  | zero => cases last
  | succ count =>
    rw [callsAfter_succ, List.getLast?_concat] at last
    cases last
    exact ⟨Nat.succ_pos count, rfl⟩

theorem dispatch_faithful {stage : Stage} {binding : Binding}
    (found : stage.binding? binding.id = some binding) (run : RunId) (reason : RunReason)
    (resolved : Fields Value) :
    Faithful run binding (stage.dispatch run binding.id reason resolved).2 stage
      (stage.dispatch run binding.id reason resolved).1 := by
  obtain ⟨current, still, same⟩ := binding?_prepare found run resolved
  have delivers := (dispatch_performs found run reason resolved).delivers still same
  have handles := delivers.handleCount
  have animated := delivers.animated
  rw [handleCount_prepare] at handles animated
  rw [gather_animated?_prepare] at animated
  refine ⟨handles, animated, ?_, ?_⟩
  · intro call last
    obtain ⟨positive, isLast⟩ := handle_of_getLast?_callsAfter last
    obtain ⟨played, inForce, -, noted⟩ := delivers.current
    rw [inForce, isLast, ← handles]
    exact noted positive
  · intro call last name own
    obtain ⟨positive, isLast⟩ := handle_of_getLast?_callsAfter last
    obtain ⟨registered, there⟩ := get?_registry_prepare stage run own resolved
    obtain ⟨record, recorded, noted⟩ := delivers.record name own registered there
    rw [recorded, isLast, ← handles]
    exact noted positive

theorem advance_faithful {stage : Stage} {binding : Binding}
    (found : stage.binding? binding.id = some binding) (run : RunId) (reason : RunReason)
    (outcome : Except ResolveError Resolution) :
    Faithful run binding (stage.advance run binding reason outcome).2 stage
      (stage.advance run binding reason outcome).1 := by
  match outcome with
  | .ok (.ready resolved) => exact dispatch_faithful found run reason resolved
  | .ok (.pending options) => exact .idle rfl rfl
  | .error error =>
    refine .idle rfl ?_
    show gather _ (.reported _ :: .failed _ _ _ :: stage.history) = _
    rw [gather_cons, gather_cons]
    exact (List.append_nil _).trans (List.append_nil _)

/-- The plays that the engine is asked for in a turn, with the handles that it gives. -/
def Turn.calls (turn : Turn) : List (Cause × Handle × ElementId) :=
  callsAfter turn.before.handleCount turn.run turn.binding turn.plays

/-- **Every turn is faithful.** -/
theorem Turn.Found.faithful {turn : Turn} (found : turn.Found) :
    Faithful turn.run turn.binding turn.plays turn.before turn.after := by
  have faithful := advance_faithful found.resolved turn.run turn.reason turn.outcome
  have handles : turn.resolved.handleCount = turn.before.handleCount := by
    cases turn <;> rfl
  have opened : gather Event.animated? turn.resolved.history =
      gather Event.animated? turn.before.history := turn.gather_resolved fun _ _ _ => rfl
  obtain ⟨counted, animated, lastRun, named⟩ := faithful
  rw [handles] at counted animated lastRun named
  rw [opened] at animated
  exact ⟨counted, animated, lastRun, named⟩

/-- A turn with resolved options performs the plays that it counts. -/
theorem Turn.Found.performs {turn : Turn} (found : turn.Found) {resolved : Fields Value}
    (ready : turn.outcome = .ok (.ready resolved)) :
    Performs turn.run turn.binding.id (ScrollLink.otherFields resolved)
      (ScrollLink.ofFields turn.before.settings.scrollAxis resolved) turn.plays
      (turn.resolved.prepare turn.run turn.binding resolved).1 turn.after := by
  have settings : turn.resolved.settings = turn.before.settings := by
    cases turn <;> rfl
  have result : turn.result =
      turn.resolved.dispatch turn.run turn.binding.id turn.reason resolved := by
    rw [Turn.result, ready]
    rfl
  rw [Turn.plays, Turn.after, result, ← settings]
  exact dispatch_performs found.resolved turn.run turn.reason resolved

/-- **The plays on record that runs have caused are those of their turns**, in order. -/
theorem Passage.filter_calls {turns : List Turn} {first second : Stage}
    (passage : Passage turns first second) :
    (gather Event.animated? second.history).filter (fun call => call.1.isOfRun) =
      (gather Event.animated? first.history).filter (fun call => call.1.isOfRun) ++
        turns.flatMap Turn.calls := by
  let read (event : Event) : Option (Cause × Handle × ElementId) :=
    event.animated?.filter fun call => call.1.isOfRun
  have filtered (history : List Event) : gather read history =
      (gather Event.animated? history).filter fun call => call.1.isOfRun :=
    (List.filter_filterMap ..).symm
  have silent (event : Event) (outside : event.isOutside = true) : read event = none := by
    cases event with
    | animated cause => cases cause <;> first | rfl | cases outside
    | _ => rfl
  rw [← filtered, ← filtered]
  refine passage.gather_eq silent fun turn found => ?_
  have all : turn.calls.filter (fun call => call.1.isOfRun) = turn.calls := by
    refine List.filter_eq_self.mpr fun call here => ?_
    obtain ⟨number, -, rfl⟩ := List.mem_map.mp here
    rfl
  rw [filtered, filtered, found.faithful.animated, List.filter_append]
  exact congrArg _ all

/-! ## Ticks -/

theorem length_calls (turn : Turn) : turn.calls.length = turn.plays := by
  rw [Turn.calls, callsAfter, List.length_map, List.length_range']

/-- A poll counts what it asks of the engine. -/
theorem pollRun_calls (state : Stage × Nat) (waiting : PendingRun) (queue : List PendingRun) :
    let called := (pollTurns state waiting queue).flatMap Turn.calls
    gather Event.animated? (pollRun state waiting).1.history =
        gather Event.animated? state.1.history ++ called ∧
      (pollRun state waiting).2 = state.2 + called.length := by
  intro called
  rcases pollRun_turn state waiting queue with ⟨none, dropped⟩ | ⟨binding, found, one, polled⟩
  · have nothing : called = [] := congrArg (List.flatMap Turn.calls) none
    rw [dropped, nothing]
    exact ⟨gather_cons _, rfl⟩
  · have own : called = (Turn.again state.1 binding waiting queue).calls :=
      (congrArg (List.flatMap Turn.calls) one).trans (List.append_nil _)
    rw [polled, own, length_calls]
    exact ⟨found.faithful.animated, rfl⟩

/-- **A tick returns the number of its plays**, which are those of its turns. -/
theorem tick_calls (stage : Stage) :
    let called := (stage.turns .tick).flatMap Turn.calls
    gather Event.animated? stage.tick.1.history =
        gather Event.animated? stage.history ++ called ∧
      stage.tick.2 = called.length := by
  suffices polled : ∀ (queue : List PendingRun) (state : Stage × Nat),
      let called := (turnsAlong pollRun pollTurns queue state).flatMap Turn.calls
      gather Event.animated? (queue.foldl pollRun state).1.history =
          gather Event.animated? state.1.history ++ called ∧
        (queue.foldl pollRun state).2 = state.2 + called.length by
    obtain ⟨asked, counted⟩ := polled stage.pending (stage.takeUp, 0)
    exact ⟨asked, counted.trans (Nat.zero_add _)⟩
  intro queue
  induction queue with
  | nil => exact fun state => ⟨(List.append_nil _).symm, rfl⟩
  | cons waiting queue ih =>
    intro state called
    obtain ⟨asked, counted⟩ := pollRun_calls state waiting queue
    obtain ⟨others, total⟩ := ih (pollRun state waiting)
    have both : called = (pollTurns state waiting queue).flatMap Turn.calls ++
        (turnsAlong pollRun pollTurns queue (pollRun state waiting)).flatMap Turn.calls :=
      List.flatMap_append
    rw [List.foldl_cons, others, total, asked, counted, both, List.length_append,
      List.append_assoc, Nat.add_assoc]
    exact ⟨rfl, rfl⟩

/-! ## Linked scroll positions -/

/-- A history in which every linked scroll position comes directly after a play for its binding,
and has the handle of this play. -/
def Linked (history : List Event) : Prop :=
  ∀ late early id handle link, history = late ++ .linkedScroll id handle link :: early →
    ∃ run name element options rest,
      early = .animated (.run run id name) handle element options :: rest

namespace Linked

variable {history : List Event}

theorem cons (linked : Linked history) {event : Event} (other : event.isLink = false) :
    Linked (event :: history) := by
  intro late early id handle link same
  cases late with
  | nil =>
    rw [(List.cons.inj same).1] at other
    cases other
  | cons first late => exact linked late early id handle link (List.cons.inj same).2

theorem append (linked : Linked history) {events : List Event}
    (others : ∀ event ∈ events, event.isLink = false) : Linked (events ++ history) := by
  induction events with
  | nil => exact linked
  | cons event rest ih =>
    exact (ih fun other here => others other (List.mem_cons_of_mem _ here)).cons
      (others event List.mem_cons_self)

/-- A scroll position that is linked after a play. -/
theorem play (linked : Linked history) (run : RunId) (id : BindingId) (name : Option String)
    (handle : Handle) (element : ElementId) (options : Fields Value) (link : ScrollLink) :
    Linked (.linkedScroll id handle link ::
      .animated (.run run id name) handle element options :: history) := by
  intro late early other given shown same
  cases late with
  | nil =>
    obtain ⟨event, rfl⟩ := List.cons.inj same
    cases event
    exact ⟨run, name, element, options, history, rfl⟩
  | cons first late =>
    have played : Linked (.animated (.run run id name) handle element options :: history) :=
      linked.cons rfl
    exact played late early other given shown (List.cons.inj same).2

end Linked

theorem Performs.linked_history {run : RunId} {id : BindingId} {options : Fields Value}
    {link : ScrollLink} {count : Nat} {before after : Stage}
    (performs : Performs run id options link count before after)
    (linked : Linked before.history) : Linked after.history := by
  induction performs with
  | nothing => exact linked
  | played _ found ih =>
    rw [history_play found]
    exact (ih linked).cons rfl
  | linked _ found ih =>
    rw [record, history_play found, play_eq found]
    exact (ih linked).play run id _ _ _ options link

theorem advance_linked {stage : Stage} (linked : Linked stage.history) {binding : Binding}
    (found : stage.binding? binding.id = some binding) (run : RunId) (reason : RunReason)
    (outcome : Except ResolveError Resolution) :
    Linked (stage.advance run binding reason outcome).1.history := by
  match outcome with
  | .ok (.ready resolved) =>
    refine (dispatch_performs found run reason resolved).linked_history ?_
    obtain ⟨late, early, noticed, notices, added⟩ := history_prepare stage run binding resolved
    rw [added]
    have begun : Linked (early ++ stage.history) :=
      linked.append fun event here => Event.isLink_of_isNotice (notices event here)
    exact (begun.cons rfl).append fun event here => Event.isLink_of_isNotice (noticed event here)
  | .ok (.pending options) => exact linked
  | .error error => exact (linked.cons rfl).cons rfl

theorem Turn.Found.linked {turn : Turn} (found : turn.Found)
    (linked : Linked turn.before.history) : Linked turn.after.history := by
  have opened : Linked turn.resolved.history := by
    rw [turn.history_resolved]
    exact linked.append (by cases turn <;> simp [Turn.opening, Event.isLink])
  exact advance_linked opened found.resolved turn.run turn.reason turn.outcome

theorem Passage.linked {turns : List Turn} {first second : Stage}
    (passage : Passage turns first second) (linked : Linked first.history) :
    Linked second.history := by
  refine passage.invariant (fun stage => Linked stage.history) ?_ (fun _ found => found.linked)
    linked
  rintro before after ⟨events, outside, added⟩ linked
  rw [added]
  exact linked.append fun event here => Event.isLink_of_isOutside (outside event here)

/-! ## The whole run -/

/-- **Handles and counts are faithful.**  After any operations on a new stage:

* each turn counts the plays that it asked of the engine, and the handle that the engine gave for
  the last of them is noted in its binding and, where the animation has a name, under the name;
* each of these plays found its binding;
* no other plays on record have a run for their cause;
* a scroll position was linked only directly after a play for the same binding, on the element
  that this was bound to, and was passed the handle of this play;
* the next tick returns the number of the plays that it asks of the engine. -/
theorem handles_faithful (settings : Settings) (data : Store) (source : HelperSupply)
    (operations : List Operation) :
    let turns := (new settings data source).turnsAll operations
    let stage := (new settings data source).performAll operations
    let ticked := (stage.turns .tick).flatMap Turn.calls
    (∀ turn ∈ turns,
      Faithful turn.run turn.binding turn.plays turn.before turn.after ∧
      ∀ resolved, turn.outcome = .ok (.ready resolved) →
        Performs turn.run turn.binding.id (ScrollLink.otherFields resolved)
          (ScrollLink.ofFields turn.before.settings.scrollAxis resolved) turn.plays
          (turn.resolved.prepare turn.run turn.binding resolved).1 turn.after) ∧
    (gather Event.animated? stage.history).filter (fun call => call.1.isOfRun) =
      turns.flatMap Turn.calls ∧
    (∀ late early id handle link,
      stage.history = late ++ .linkedScroll id handle link :: early →
        ∃ run name element options rest,
          early = .animated (.run run id name) handle element options :: rest ∧
          BoundAs stage.history id name element) ∧
    gather Event.animated? stage.tick.1.history =
      gather Event.animated? stage.history ++ ticked ∧
    stage.tick.2 = ticked.length := by
  intro turns stage ticked
  have begun := new_sound settings data source
  have passage : Passage turns (new settings data source) stage := performAll_passage _ operations
  have linked : Linked stage.history := passage.linked (by
    intro late early id handle link same
    cases late <;> cases same)
  have attributed : Attributed stage :=
    performAll_attributed begun (new_enrolled settings data source) (new_attributed _ _ _)
      operations
  refine ⟨fun turn here => ⟨(passage.found here).faithful, fun _ => (passage.found here).performs⟩,
    passage.filter_calls, ?_, tick_calls stage⟩
  intro late early id handle link same
  obtain ⟨run, name, element, options, rest, rfl⟩ := linked late early id handle link same
  have played : .animated (.run run id name) handle element options ∈ stage.history := by
    rw [same]
    exact List.mem_append_right _ (List.mem_cons_of_mem _ List.mem_cons_self)
  exact ⟨run, name, element, options, rest, rfl, attributed _ played id name element rfl⟩

/-- Only a turn with resolved options plays. -/
theorem Turn.exists_ready {turn : Turn} (positive : 0 < turn.plays) :
    ∃ resolved, turn.outcome = .ok (.ready resolved) := by
  unfold Turn.plays Turn.result at positive
  cases outcome : turn.outcome with
  | error error =>
    rw [outcome] at positive
    cases positive
  | ok resolution =>
    cases resolution with
    | pending options =>
      rw [outcome] at positive
      cases positive
    | ready resolved => exact ⟨resolved, rfl⟩

namespace SeenBeforeLoaded

/-- A named animation waits for the view and follows the scroll position; its element enters the
view while the helper is on its way. -/
def operations : List Operation :=
  [.apply ⟨1⟩ ⟨some "fade", ["in-view", "scroll"], "{x: spring()}"⟩ [], .input (.enteredView ⟨1⟩)]

/-- The plays of the tick that brings the helper: two for the first run, and one for the entry. -/
def plays : List (Cause × Handle × ElementId) :=
  [(.run 1 ⟨1⟩ (some "fade"), ⟨1⟩, ⟨1⟩), (.run 1 ⟨1⟩ (some "fade"), ⟨2⟩, ⟨1⟩),
    (.run 2 ⟨1⟩ (some "fade"), ⟨3⟩, ⟨1⟩)]

end SeenBeforeLoaded

open SeenBeforeLoaded in
/-- A tick plays three times: twice for the first run, which links a scroll position, and once for
the entry. -/
theorem handles_faithful_where_one_run_plays_twice :
    ((new .standard [] (Helper.builtinSource 1)).performAll operations).tick.2 = 3 ∧
      gather Event.animated?
        ((new .standard [] (Helper.builtinSource 1)).performAll operations).tick.1.history =
          plays ∧
      ∃ turn ∈ (new .standard [] (Helper.builtinSource 1)).turnsAll (operations ++ [.tick]),
        turn.run = 1 ∧ turn.plays = 2 ∧ Faithful 1 turn.binding 2 turn.before turn.after ∧
        ∃ options link between, Performs 1 turn.binding.id options link 2 between turn.after := by
  have idle : gather Event.animated?
      ((new .standard [] (Helper.builtinSource 1)).performAll operations).history = [] := by
    decide +kernel
  have calls : (((new .standard [] (Helper.builtinSource 1)).performAll operations).turns
      .tick).flatMap Turn.calls = plays := by
    decide +kernel
  have twice : ∃ turn ∈
      (new .standard [] (Helper.builtinSource 1)).turnsAll (operations ++ [.tick]),
      turn.run = 1 ∧ turn.plays = 2 := by
    decide +kernel
  obtain ⟨-, -, -, asked, counted⟩ := handles_faithful .standard [] (Helper.builtinSource 1)
    operations
  obtain ⟨faithful, -⟩ := handles_faithful .standard [] (Helper.builtinSource 1)
    (operations ++ [.tick])
  rw [calls] at asked counted
  rw [idle, List.nil_append] at asked
  obtain ⟨turn, here, run, two⟩ := twice
  obtain ⟨own, performs⟩ := faithful turn here
  rw [run, two] at own performs
  have positive : 0 < turn.plays := by
    rw [two]
    exact Nat.succ_pos 1
  obtain ⟨resolved, ready⟩ := Turn.exists_ready positive
  exact ⟨counted, asked, turn, here, run, two, own, _, _, _, performs resolved ready⟩

end Stage

end Choreography
