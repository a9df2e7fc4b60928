import Choreography.Proofs.Stage.Membership

/-!
# On whose behalf things happen

Every dispatch on record, and every play that a run asked for, is one of a binding, and carries
the name and the element of the animation that was bound under its id
(`performAll_attributed`).
-/

namespace Choreography

namespace Event

/-- The binding on whose behalf an event dispatches or plays something, with the name and the
element that the event gives. -/
def credits? : Event → Option (BindingId × Option String × ElementId)
  | .dispatched _ binding name element _ => some (binding, name, element)
  | .animated (.run _ binding name) _ element _ => some (binding, name, element)
  | _ => none

/-- Whether an event neither dispatches a run nor plays for one. -/
def isUncredited (event : Event) : Bool := event.credits?.isNone

theorem credits?_ne_some {event : Event} (uncredited : event.isUncredited = true)
    (credit : BindingId × Option String × ElementId) : event.credits? ≠ some credit := by
  rw [Option.isNone_iff_eq_none.mp uncredited]
  exact nofun

theorem isUncredited_of_isUnbound {event : Event} (unbound : event.isUnbound = true) :
    event.isUncredited = true := by
  cases event with
  | animated cause => cases cause <;> first | rfl | cases unbound
  | _ => first | rfl | cases unbound

theorem isUncredited_of_isNotice {event : Event} (notice : event.isNotice = true) :
    event.isUncredited = true := by
  cases event <;> first | rfl | cases notice

theorem isUncredited_of_isEnding {event : Event} (ending : event.isEnding = true) :
    event.isUncredited = true := by
  cases event <;> first | rfl | cases ending

theorem isUncredited_of_isBeginning {event : Event} (beginning : event.isBeginning = true) :
    event.isUncredited = true := by
  cases event <;> first | rfl | cases beginning

end Event

/-- A history in which an animation of a name was bound to an element under an id. -/
def BoundAs (history : List Event) (id : BindingId) (name : Option String)
    (element : ElementId) : Prop :=
  ∃ label animation, .bound id label animation ∈ history ∧ animation.name = name ∧
    animation.element = element

theorem BoundAs.mono {history later : List Event} {id : BindingId} {name : Option String}
    {element : ElementId} (bound : BoundAs history id name element) (grown : history ⊆ later) :
    BoundAs later id name element := by
  obtain ⟨label, animation, here, own⟩ := bound
  exact ⟨label, animation, grown here, own⟩

namespace Stage

/-- A stage on which everything that a run did is attributed to an animation that was bound. -/
def Attributed (stage : Stage) : Prop :=
  ∀ event ∈ stage.history, ∀ id name element, event.credits? = some (id, name, element) →
    BoundAs stage.history id name element

theorem new_attributed (settings : Settings) (data : Store) (source : HelperSupply) :
    Attributed (new settings data source) := nofun

section

variable {stage after : Stage}

/-- What is new has to be attributed to what was bound before. -/
theorem Attributed.append (attributed : Attributed stage) (events : List Event)
    (new : ∀ event ∈ events, ∀ id name element, event.credits? = some (id, name, element) →
      BoundAs stage.history id name element)
    (added : after.history = events ++ stage.history) : Attributed after := by
  intro event here id name element credits
  rw [added] at here ⊢
  refine BoundAs.mono ?_ (List.subset_append_right events stage.history)
  rcases List.mem_append.mp here with here | here
  · exact new event here id name element credits
  · exact attributed event here id name element credits

/-- Nothing has to be attributed of what neither dispatches nor plays. -/
theorem Attributed.of_adds (attributed : Attributed stage)
    (adds : Adds Event.isUncredited stage after) : Attributed after := by
  obtain ⟨events, silent, added⟩ := adds
  exact attributed.append events (fun event here _ _ _ credits =>
    (Event.credits?_ne_some (silent event here) _ credits).elim) added

/-- A binding in force was bound with its name and its element. -/
theorem Enrolled.boundAs (enrolled : Enrolled stage) {binding : Binding}
    (here : binding ∈ stage.bindings) :
    BoundAs stage.history binding.id binding.animation.name binding.element :=
  ⟨binding.label, binding.animation, mem_gather_bound.mp (enrolled.bound binding here), rfl, rfl⟩

theorem play_attributed (enrolled : Enrolled stage) (attributed : Attributed stage) (run : RunId)
    (id : BindingId) (options : Fields Value) :
    Attributed (stage.play run id options).1 := by
  cases found : stage.binding? id with
  | none =>
    unfold play
    rw [found]
    exact attributed
  | some binding =>
    obtain ⟨here, rfl⟩ := mem_bindings_of_binding? found
    refine attributed.append [_] ?_ (history_play found run options)
    intro event played own name element credits
    rw [List.mem_singleton.mp played] at credits
    cases credits
    exact enrolled.boundAs here

theorem prepare_attributed (enrolled : Enrolled stage) (attributed : Attributed stage)
    (run : RunId) {binding : Binding} (here : binding ∈ stage.bindings)
    (resolved : Fields Value) :
    Attributed (stage.prepare run binding resolved).1 := by
  obtain ⟨late, early, noticed, notices, added⟩ := history_prepare stage run binding resolved
  refine attributed.append (late ++ _ :: early) ?_
    (added.trans (by rw [List.append_assoc, List.cons_append]))
  intro event new own name element credits
  have silent (notice : event.isNotice = true) : BoundAs stage.history own name element :=
    (Event.credits?_ne_some (Event.isUncredited_of_isNotice notice) _ credits).elim
  rcases List.mem_append.mp new with new | new
  · exact silent (noticed event new)
  · rcases List.mem_cons.mp new with rfl | new
    · cases credits
      exact enrolled.boundAs here
    · exact silent (notices event new)

/-- What a run does as it goes on is attributed to its binding. -/
theorem advance_attributed (enrolled : Enrolled stage) (attributed : Attributed stage)
    {binding : Binding} (found : stage.binding? binding.id = some binding) (run : RunId)
    (reason : RunReason) (outcome : Except ResolveError Resolution) :
    Attributed (stage.advance run binding reason outcome).1 := by
  match outcome with
  | .ok (.ready resolved) =>
    refine (dispatch_induction (motive := fun later => Enrolled later ∧ Attributed later) found
      run reason resolved ?_ ?_ ?_).2
    · exact ⟨(prepare_dispatches stage run binding resolved).steady.enrolled enrolled,
        prepare_attributed enrolled attributed run (mem_bindings_of_binding? found).1 resolved⟩
    · rintro before ⟨enrolled, attributed⟩
      exact ⟨(play_plays before run _ _).steady.enrolled enrolled,
        play_attributed enrolled attributed run _ _⟩
    · rintro before handle link ⟨enrolled, attributed⟩
      exact ⟨(record_linkedScroll_plays before run _ handle link).steady.enrolled enrolled,
        attributed.of_adds (.single rfl rfl)⟩
  | .ok (.pending options) => exact attributed.of_adds (Adds.refl _ stage)
  | .error error =>
    exact attributed.of_adds ⟨[.reported (failure binding.animation.label error),
      .failed run binding.id error], by simp [Event.isUncredited, Event.credits?], rfl⟩

theorem schedule_attributed (enrolled : Enrolled stage) (attributed : Attributed stage)
    (id : BindingId) (reason : RunReason) : Attributed (stage.schedule id reason).1 := by
  refine schedule_cases (motive := Attributed) stage id reason attributed ?_
  intro binding found _ outcome
  exact advance_attributed ((start_steady stage binding reason).enrolled enrolled)
    (attributed.of_adds (.single rfl rfl)) found _ reason outcome

theorem pollRun_attributed {state : Stage × Nat} (enrolled : Enrolled state.1)
    (attributed : Attributed state.1) (waiting : PendingRun) :
    Attributed (pollRun state waiting).1 := by
  refine pollRun_cases (motive := Attributed) state waiting
    (attributed.of_adds (.single rfl rfl)) ?_
  intro binding found _ outcome
  exact advance_attributed ((polled_steady state.1 waiting).enrolled enrolled)
    (attributed.of_adds (Adds.refl _ state.1)) found _ _ outcome

theorem step_attributed {told : Option BindingId} {before after : Stage}
    (step : Step told before after) (enrolled : Enrolled before)
    (attributed : Attributed before) : Attributed after := by
  cases step with
  | unbound passes =>
    exact attributed.of_adds (passes.adds.mono fun _ => Event.isUncredited_of_isUnbound)
  | released chosen =>
    exact attributed.of_adds
      ((release_releases before chosen).adds.mono fun _ => Event.isUncredited_of_isEnding)
  | installed label animation chain =>
    have binds := bind_binds before label animation chain
    exact schedule_attributed (bind_enrolled enrolled label animation chain)
      (attributed.of_adds (binds.adds.mono fun _ => Event.isUncredited_of_isBeginning)) _ _
  | changed tells => exact schedule_attributed enrolled attributed _ _
  | entered here responds =>
    rename_i binding
    rw [enter_eq]
    exact schedule_attributed ((lookAt_steady before binding).enrolled enrolled)
      (attributed.of_adds ((lookAt_looks before binding).adds.mono
        fun _ => Event.isUncredited_of_isEnding)) _ _
  | tornDown element gone => exact attributed.of_adds (.single rfl rfl)

end

/-- **Operations leave everything that runs do attributed.** -/
theorem performAll_attributed {stage : Stage} (sound : Sound stage []) (enrolled : Enrolled stage)
    (attributed : Attributed stage) (operations : List Operation) :
    Attributed (stage.performAll operations) := by
  refine (performAll_invariant (fun stage queue =>
      Sound stage queue ∧ Enrolled stage ∧ Attributed stage)
    (fun _ all => all.1.distinct) ?_ ?_ ?_ operations stage ⟨sound, enrolled, attributed⟩).2.2
  · rintro stage ⟨sound, enrolled, attributed⟩
    exact ⟨takeUp_sound sound, (takeUp_steady stage).enrolled enrolled,
      attributed.of_adds (Adds.refl _ stage)⟩
  · rintro stage waiting queue plays ⟨sound, enrolled, attributed⟩
    exact ⟨pollRun_sound sound plays, (pollRun_steady (stage, plays) waiting).enrolled enrolled,
      pollRun_attributed enrolled attributed waiting⟩
  · rintro told before after step ⟨sound, enrolled, attributed⟩
    exact ⟨step_sound step sound, step_enrolled step sound enrolled,
      step_attributed step enrolled attributed⟩

end Stage

end Choreography
