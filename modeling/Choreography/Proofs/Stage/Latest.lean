import Choreography.Proofs.Stage.Recorded

/-!
# What a binding holds

A binding holds the options of the dispatch of it that came last, and if that was also
the last dispatch of any binding under its name, the registry holds them under this name
(`performAll_current`).
-/

namespace Choreography

namespace Event

/-- The run of a binding that an event dispatches, with its resolved options. -/
def dispatch? (id : BindingId) : Event → Option (RunId × Fields Value)
  | .dispatched run binding _ _ resolved =>
    if binding = id then some (run, resolved) else none
  | _ => none

/-- The run that an event dispatches under a name, with its binding and its resolved
options. -/
def use? (name : String) : Event → Option (RunId × BindingId × Fields Value)
  | .dispatched run binding named _ resolved =>
    if named = some name then some (run, binding, resolved) else none
  | _ => none

/-- Whether an event is no dispatch. -/
def isNoDispatch : Event → Bool
  | .dispatched .. => false
  | _ => true

theorem dispatchedRun?_eq_map (id : BindingId) (event : Event) :
    event.dispatchedRun? id = (event.dispatch? id).map Prod.fst := by
  cases event with
  | dispatched run binding =>
    by_cases own : binding = id <;> simp [dispatchedRun?, dispatch?, own]
  | _ => rfl

theorem dispatch?_eq_some {id : BindingId} {event : Event} {run : RunId}
    {resolved : Fields Value} (dispatched : event.dispatch? id = some (run, resolved)) :
    ∃ name element, event = .dispatched run id name element resolved := by
  cases event with
  | dispatched number binding name element values =>
    rw [dispatch?] at dispatched
    split at dispatched
    · rename_i same
      subst same
      cases dispatched
      exact ⟨name, element, rfl⟩
    · cases dispatched
  | _ => cases dispatched

theorem isNoDispatch_of_isAside {event : Event} (aside : event.isAside = true) :
    event.isNoDispatch = true := by
  cases event <;> first | rfl | cases aside

end Event

/-- The dispatch of a binding that came last. -/
def lastDispatch? (id : BindingId) (history : List Event) : Option (RunId × Fields Value) :=
  history.findSome? (Event.dispatch? id)

/-- The dispatch under a name that came last. -/
def lastUse? (name : String) (history : List Event) :
    Option (RunId × BindingId × Fields Value) :=
  history.findSome? (Event.use? name)

section

variable {events history : List Event}

theorem lastDispatch?_append (id : BindingId)
    (others : ∀ event ∈ events, event.isNoDispatch = true) :
    lastDispatch? id (events ++ history) = lastDispatch? id history := by
  rw [lastDispatch?, List.findSome?_append, List.findSome?_eq_none_iff.mpr]
  · rfl
  · intro event here
    have kind := others event here
    cases event <;> first | rfl | cases kind

theorem lastUse?_append (name : String)
    (others : ∀ event ∈ events, event.isNoDispatch = true) :
    lastUse? name (events ++ history) = lastUse? name history := by
  rw [lastUse?, List.findSome?_append, List.findSome?_eq_none_iff.mpr]
  · rfl
  · intro event here
    have kind := others event here
    cases event <;> first | rfl | cases kind

/-- What has no dispatched run has no dispatch on record. -/
theorem not_dispatched_of_nil {id : BindingId} (none : dispatchedRuns id history = [])
    (run : RunId) (name : Option String) (element : ElementId) (resolved : Fields Value) :
    .dispatched run id name element resolved ∉ history := by
  intro recorded
  have silent := List.filterMap_eq_nil_iff.mp none _ (List.mem_reverse.mpr recorded)
  rw [Event.dispatchedRun?, if_pos rfl] at silent
  cases silent

/-- Without a last dispatch there is none at all. -/
theorem dispatchedRuns_of_none {id : BindingId} (none : lastDispatch? id history = none) :
    dispatchedRuns id history = [] := by
  refine List.filterMap_eq_nil_iff.mpr ?_
  intro event here
  have silent := List.findSome?_eq_none_iff.mp none event (List.mem_reverse.mp here)
  rw [Event.dispatchedRun?_eq_map, silent]
  rfl

/-- The last dispatch is on record, and its run is the last one dispatched. -/
theorem dispatchedRuns_of_some {id : BindingId} {run : RunId} {resolved : Fields Value}
    (last : lastDispatch? id history = some (run, resolved)) :
    (∃ name element, .dispatched run id name element resolved ∈ history) ∧
      ∃ earlier, dispatchedRuns id history = earlier ++ [run] := by
  induction history with
  | nil => cases last
  | cons event rest ih =>
    rw [lastDispatch?, List.findSome?_cons] at last
    rw [dispatchedRuns_cons, Event.dispatchedRun?_eq_map]
    cases own : Event.dispatch? id event with
    | none =>
      rw [own] at last
      obtain ⟨⟨name, element, here⟩, earlier, runs⟩ := ih last
      refine ⟨⟨name, element, List.mem_cons_of_mem _ here⟩, earlier, ?_⟩
      rw [runs]
      exact List.append_nil _
    | some found =>
      rw [own] at last
      cases last
      obtain ⟨name, element, rfl⟩ := Event.dispatch?_eq_some own
      exact ⟨⟨name, element, List.mem_cons_self⟩, dispatchedRuns id rest, rfl⟩

/-- Where a binding is dispatched under one name only, and made the last use of it, this
was its last dispatch. -/
theorem lastDispatch?_of_lastUse? {id : BindingId} {name : String} {run : RunId}
    {resolved : Fields Value}
    (named : ∀ run other element resolved,
      .dispatched run id other element resolved ∈ history → other = some name)
    (last : lastUse? name history = some (run, id, resolved)) :
    lastDispatch? id history = some (run, resolved) := by
  induction history with
  | nil => cases last
  | cons event rest ih =>
    have later := ih fun run other element resolved here =>
      named run other element resolved (List.mem_cons_of_mem _ here)
    rw [lastUse?] at later
    rw [lastUse?, List.findSome?_cons] at last
    rw [lastDispatch?, List.findSome?_cons]
    cases event with
    | dispatched number binding other element values =>
      rw [Event.use?] at last
      rw [Event.dispatch?]
      by_cases own : other = some name
      · rw [if_pos own] at last
        cases last
        rw [if_pos rfl]
      · have different : binding ≠ id := by
          rintro rfl
          exact own (named number other element values List.mem_cons_self)
        rw [if_neg own] at last
        rw [if_neg different]
        exact later last
    | _ => exact later last

end

namespace Registry

theorem registered_cons (key name : String) (record : Record)
    (rest : List (String × Record)) :
    registered ((key, record) :: rest) name =
      if key = name then some (record.element, record.options) else registered rest name := by
  unfold registered
  rw [Fields.get?.eq_def]
  by_cases same : key = name <;> simp [same]

/-- A name that is registered to another element survives a release. -/
theorem registered_release {registry : Registry} {name : String} {owner element : ElementId}
    {options : Fields Value} (found : registry.registered name = some (owner, options))
    (different : owner ≠ element) :
    (registry.release element).registered name = some (owner, options) := by
  induction registry with
  | nil => cases found
  | cons entry rest ih =>
    obtain ⟨key, record⟩ := entry
    rw [registered_cons] at found
    by_cases gone : record.element = element
    · have dropped : release ((key, record) :: rest) element = release rest element :=
        List.filter_cons_of_neg (by simp [gone])
      rw [dropped]
      refine ih ?_
      split at found
      · cases found
        exact (different gone).elim
      · exact found
    · have kept : release ((key, record) :: rest) element =
          (key, record) :: release rest element :=
        List.filter_cons_of_pos (by simp [gone])
      rw [kept, registered_cons]
      split at found
      · rename_i same
        rw [if_pos same]
        exact found
      · rename_i other
        rw [if_neg other]
        exact ih found

end Registry

namespace Stage

/-- What is idle dispatches nothing. -/
theorem Adds.undispatched {kind : Event → Bool} {before after : Stage}
    (adds : Adds kind before after) (idle : ∀ event, kind event = true → event.isIdle = true) :
    Adds Event.isNoDispatch before after :=
  adds.mono fun event fits =>
    Event.isNoDispatch_of_isAside (Event.isAside_of_isIdle (idle event fits))

/-- What is dispatched after events that are no dispatches was so before. -/
theorem Adds.dispatched_before {before after : Stage} (adds : Adds Event.isNoDispatch before after)
    {run : RunId} {id : BindingId} {name : Option String} {element : ElementId}
    {resolved : Fields Value}
    (recorded : .dispatched run id name element resolved ∈ after.history) :
    .dispatched run id name element resolved ∈ before.history := by
  obtain ⟨events, kinds, added⟩ := adds
  rw [added] at recorded
  exact (List.mem_append.mp recorded).resolve_left fun new => nomatch kinds _ new

/-- Every binding in force holds what its last dispatch resolved, and so does the
registry if this was the last dispatch under its name. -/
structure Current (stage : Stage) : Prop where
  options : ∀ binding ∈ stage.bindings, binding.options =
    (lastDispatch? binding.id stage.history).map fun dispatch =>
      ScrollLink.otherFields dispatch.2
  named : ∀ binding ∈ stage.bindings, ∀ run name element resolved,
    .dispatched run binding.id name element resolved ∈ stage.history →
      name = binding.animation.name ∧ element = binding.element
  registered : ∀ binding ∈ stage.bindings, ∀ name, binding.animation.name = some name →
    ∀ run resolved, lastUse? name stage.history = some (run, binding.id, resolved) →
      stage.registry.registered name =
        some (binding.element, ScrollLink.otherFields resolved)

theorem new_current (settings : Settings) (data : Store) (source : HelperSupply) :
    Current (new settings data source) where
  options := nofun
  named := nofun
  registered := nofun

/-- What dispatches nothing leaves every binding with what it held. -/
theorem Current.congr {stage after : Stage} (current : Current stage)
    (bindings : ∀ binding ∈ after.bindings,
      (∃ old ∈ stage.bindings, old.id = binding.id ∧ old.animation = binding.animation ∧
        old.options = binding.options) ∨
      (binding.options = none ∧ dispatchedRuns binding.id stage.history = []))
    (adds : Adds Event.isNoDispatch stage after)
    (registered : ∀ binding ∈ after.bindings, ∀ name options,
      stage.registry.registered name = some (binding.element, options) →
      after.registry.registered name = some (binding.element, options)) : Current after := by
  obtain ⟨events, kinds, added⟩ := id adds
  exact {
    options := by
      intro binding here
      rw [added, lastDispatch?_append binding.id kinds]
      rcases bindings binding here with ⟨old, there, id, -, options⟩ | ⟨options, new⟩
      · rw [← options, ← id]
        exact current.options old there
      · -- a binding that has just begun was never dispatched
        rw [options]
        cases last : lastDispatch? binding.id stage.history with
        | none => rfl
        | some dispatch =>
          obtain ⟨run, resolved⟩ := dispatch
          obtain ⟨⟨name, element, recorded⟩, -⟩ := dispatchedRuns_of_some last
          exact (not_dispatched_of_nil new _ _ _ _ recorded).elim
    named := by
      intro binding here run name element resolved recorded
      have before := adds.dispatched_before recorded
      rcases bindings binding here with ⟨old, there, id, animation, -⟩ | ⟨-, new⟩
      · rw [← id] at before
        rw [Binding.element, ← animation]
        exact current.named old there run name element resolved before
      · exact (not_dispatched_of_nil new _ _ _ _ before).elim
    registered := by
      intro binding here name own run resolved last
      rw [added, lastUse?_append name kinds] at last
      refine registered binding here name _ ?_
      rcases bindings binding here with ⟨old, there, id, animation, -⟩ | ⟨-, new⟩
      · rw [← id] at last
        rw [Binding.element, ← animation]
        exact current.registered old there name (animation ▸ own) run resolved last
      · -- nor did it use any name
        obtain ⟨event, recorded, used⟩ := List.exists_of_findSome?_eq_some last
        cases event with
        | dispatched number other named element values =>
          rw [Event.use?] at used
          split at used
          · cases used
            exact (not_dispatched_of_nil new _ _ _ _ recorded).elim
          · cases used
        | _ => cases used }

section

variable {run : RunId} {binding : Binding} {resolved : Fields Value} {before after : Stage}
  (dispatches : Dispatches run binding resolved before after)

include dispatches

theorem Dispatches.lastDispatch?_eq (id : BindingId) : lastDispatch? id after.history =
    if binding.id = id then some (run, resolved) else lastDispatch? id before.history := by
  obtain ⟨late, early, asides, earlier, added⟩ := dispatches.exists_asides
  have rest : lastDispatch? id (early ++ before.history) = lastDispatch? id before.history :=
    lastDispatch?_append id fun event here => Event.isNoDispatch_of_isAside (earlier event here)
  rw [added, lastDispatch?_append id fun event here =>
    Event.isNoDispatch_of_isAside (asides event here), lastDispatch?, List.findSome?_cons,
    Event.dispatch?]
  rw [lastDispatch?] at rest
  by_cases own : binding.id = id
  · rw [if_pos own, if_pos own]
  · rw [if_neg own, if_neg own]
    exact rest

theorem Dispatches.lastUse?_eq (name : String) : lastUse? name after.history =
    if binding.animation.name = some name then some (run, binding.id, resolved)
    else lastUse? name before.history := by
  obtain ⟨late, early, asides, earlier, added⟩ := dispatches.exists_asides
  have rest : lastUse? name (early ++ before.history) = lastUse? name before.history :=
    lastUse?_append name fun event here => Event.isNoDispatch_of_isAside (earlier event here)
  rw [added, lastUse?_append name fun event here =>
    Event.isNoDispatch_of_isAside (asides event here), lastUse?, List.findSome?_cons, Event.use?]
  rw [lastUse?] at rest
  by_cases own : binding.animation.name = some name
  · rw [if_pos own, if_pos own]
  · rw [if_neg own, if_neg own]
    exact rest

/-- The dispatch is the only one that a dispatch puts on record. -/
theorem Dispatches.of_mem_history {number : RunId} {id : BindingId} {name : Option String}
    {element : ElementId} {values : Fields Value}
    (recorded : .dispatched number id name element values ∈ after.history) :
    Event.dispatched number id name element values =
        .dispatched run binding.id binding.animation.name binding.element resolved ∨
      .dispatched number id name element values ∈ before.history := by
  obtain ⟨late, early, asides, earlier, added⟩ := dispatches.exists_asides
  rw [added] at recorded
  rcases List.mem_append.mp recorded with recorded | recorded
  · cases asides _ recorded
  · rcases List.mem_cons.mp recorded with same | recorded
    · exact .inl same
    · rcases List.mem_append.mp recorded with recorded | recorded
      · cases earlier _ recorded
      · exact .inr recorded

/-- A dispatch leaves its binding, and its name, with what was resolved. -/
theorem Dispatches.current (distinct : (before.bindings.map Binding.id).Nodup)
    (here : binding ∈ before.bindings) (current : Current before) : Current after := by
  obtain ⟨change, touches, written, changed⟩ := dispatches.bindings
  exact {
    options := by
      intro other there
      rw [changed] at there
      obtain ⟨old, present, rfl⟩ := List.mem_map.mp there
      rw [touches.id_eq, dispatches.lastDispatch?_eq]
      by_cases own : binding.id = old.id
      · rw [if_pos own, written old own.symm]
        rfl
      · rw [if_neg own, touches.others old (Ne.symm own)]
        exact current.options old present
    named := by
      intro other there number name element values recorded
      rw [changed] at there
      obtain ⟨old, present, rfl⟩ := List.mem_map.mp there
      rw [touches.id_eq] at recorded
      rw [touches.animation_eq, touches.element_eq]
      rcases dispatches.of_mem_history recorded with same | recorded
      · obtain ⟨-, own, sameName, sameElement, -⟩ := Event.dispatched.inj same
        have equal : old = binding := List.inj_on_of_nodup_map distinct present here own
        rw [equal]
        exact ⟨sameName, sameElement⟩
      · exact current.named old present number name element values recorded
    registered := by
      intro other there name own number values last
      rw [changed] at there
      obtain ⟨old, present, rfl⟩ := List.mem_map.mp there
      rw [touches.animation_eq] at own
      rw [touches.id_eq, dispatches.lastUse?_eq] at last
      rw [touches.element_eq, dispatches.registered]
      split at last
      · -- this dispatch made the last use of the name, so it is the one of this binding
        rename_i used
        have same : binding.id = old.id := congrArg (fun use => use.2.1) (Option.some.inj last)
        have values : resolved = values := congrArg (fun use => use.2.2) (Option.some.inj last)
        have equal : old = binding := List.inj_on_of_nodup_map distinct present here same.symm
        rw [if_pos used, equal, values]
      · rename_i unused
        rw [if_neg unused]
        exact current.registered old present name own number values last }

end

/-- A binding holds what the latest of its dispatched runs resolved, or nothing if there
is none, and so does the registry if the binding made the last use of its name. -/
def ShowsLatest (stage : Stage) (binding : Binding) : Prop :=
  (dispatchedRuns binding.id stage.history = [] ∧ binding.options = none) ∨
    ∃ run resolved,
      .dispatched run binding.id binding.animation.name binding.element resolved ∈
        stage.history ∧
      (∀ other ∈ dispatchedRuns binding.id stage.history, other ≤ run) ∧
      binding.options = some (ScrollLink.otherFields resolved) ∧
      ∀ name, binding.animation.name = some name →
        (∀ use, lastUse? name stage.history = some use → use.2.1 = binding.id) →
        stage.registry.registered name =
          some (binding.element, ScrollLink.otherFields resolved)

/-- If runs are dispatched in their order, the last dispatch is that of the latest one. -/
theorem Current.showsLatest {stage : Stage} (current : Current stage) {binding : Binding}
    (here : binding ∈ stage.bindings)
    (ascending : (dispatchedRuns binding.id stage.history).Pairwise (· < ·)) :
    stage.ShowsLatest binding := by
  have options := current.options binding here
  cases last : lastDispatch? binding.id stage.history with
  | none =>
    rw [last] at options
    exact .inl ⟨dispatchedRuns_of_none last, options⟩
  | some dispatch =>
    obtain ⟨run, resolved⟩ := dispatch
    rw [last] at options
    obtain ⟨⟨name, element, recorded⟩, earlier, runs⟩ := dispatchedRuns_of_some last
    obtain ⟨rfl, rfl⟩ := current.named binding here run name element resolved recorded
    refine .inr ⟨run, resolved, recorded, ?_, options, ?_⟩
    · -- the last dispatch stands behind all others, so its run is the latest
      rw [runs] at ascending ⊢
      intro other there
      rcases List.mem_append.mp there with before | now
      · exact Nat.le_of_lt ((List.pairwise_append.mp ascending).2.2 other before run
          (List.mem_singleton.mpr rfl))
      · exact Nat.le_of_eq (List.mem_singleton.mp now)
    · -- and it used the name last, as no other binding did so later
      intro name own alone
      cases used : lastUse? name stage.history with
      | none =>
        have silent := List.findSome?_eq_none_iff.mp used _ recorded
        rw [Event.use?, if_pos own] at silent
        cases silent
      | some use =>
        obtain ⟨number, other, values⟩ := use
        cases alone (number, other, values) used
        have same := lastDispatch?_of_lastUse?
          (fun run other element resolved there =>
            (current.named binding here run other element resolved there).1.trans own) used
        rw [last] at same
        cases same
        exact current.registered binding here name own run resolved used

/-! ## One run goes on -/

/-- The same bindings hold what they held. -/
theorem Current.of_bindings_eq {stage after : Stage} (current : Current stage)
    (bindings : after.bindings = stage.bindings)
    (adds : Adds Event.isNoDispatch stage after)
    (registered : ∀ binding ∈ after.bindings, ∀ name options,
      stage.registry.registered name = some (binding.element, options) →
      after.registry.registered name = some (binding.element, options)) : Current after := by
  refine current.congr ?_ adds registered
  intro binding here
  rw [bindings] at here
  exact .inl ⟨binding, here, rfl, rfl, rfl⟩

/-- A run that goes on writes what it resolved if it is dispatched, and else nothing. -/
theorem Held.advance_current {stage : Stage} {run : RunId} {binding : Binding}
    {queue : List PendingRun} (held : Held stage run binding queue) (current : Current stage)
    (reason : RunReason) (outcome : Except ResolveError Resolution) :
    Current (stage.advance run binding reason outcome).1 := by
  match outcome with
  | .ok (.ready resolved) =>
    exact (dispatch_dispatches held.found run reason resolved).current held.sound.distinct
      (mem_bindings_of_binding? held.found).1 current
  | .ok (.pending options) =>
    exact current.of_bindings_eq rfl (Adds.refl _ stage) (fun _ _ _ _ found => found)
  | .error error =>
    exact current.of_bindings_eq rfl
      ⟨[.reported (failure binding.animation.label error), .failed run binding.id error],
        by simp [Event.isNoDispatch], rfl⟩ (fun _ _ _ _ found => found)

theorem schedule_current {stage : Stage} (sound : Sound stage []) (current : Current stage)
    (id : BindingId) (reason : RunReason) : Current (stage.schedule id reason).1 := by
  cases found : stage.binding? id with
  | none =>
    rw [schedule_of_none found]
    exact current
  | some binding =>
    obtain ⟨-, rfl⟩ := mem_bindings_of_binding? found
    rw [schedule_eq found]
    refine (start_held sound found reason).advance_current ?_ reason _
    exact current.of_bindings_eq rfl
      (.single rfl rfl)
      (fun _ _ _ _ found => found)

theorem pollRun_current {stage : Stage} {waiting : PendingRun} {queue : List PendingRun}
    (sound : Sound stage (waiting :: queue)) (current : Current stage) (plays : Nat) :
    Current (pollRun (stage, plays) waiting).1 := by
  obtain ⟨binding, found, -⟩ := sound.binding?_head
  rw [pollRun_eq found]
  exact (poll_held sound found).advance_current
    (current.of_bindings_eq rfl (Adds.refl _ stage) (fun _ _ _ _ found => found)) waiting.reason _

/-! ## Steps and operations -/

theorem bind_current {stage : Stage} (recorded : Recorded stage (awaits (stage.pending ++ [])))
    (current : Current stage) (label : String) (animation : Animation) (chain : Chain) :
    Current (stage.bind label animation chain).1 := by
  have binds := bind_binds stage label animation chain
  obtain ⟨subscriptions, bindings⟩ := binds.bindings
  refine current.congr ?_ (binds.adds.undispatched fun _ => Event.isIdle_of_isBeginning) ?_
  · intro binding here
    rw [bindings] at here
    rcases List.mem_append.mp here with here | here
    · exact .inl ⟨binding, here, rfl, rfl, rfl⟩
    · -- the number of a new binding is greater than all that are on record
      rw [List.mem_singleton.mp here]
      refine .inr ⟨rfl, recorded.dispatchedRuns_eq_nil ?_⟩
      rw [binds.id_eq]
      exact Nat.lt_succ_self _
  · rw [binds.registry]
    exact fun _ _ _ _ found => found

theorem lookAt_current {stage : Stage} (current : Current stage) (binding : Binding) :
    Current (stage.lookAt binding) := by
  have looks := lookAt_looks stage binding
  refine current.congr ?_ (looks.adds.undispatched fun _ => Event.isIdle_of_isEnding) ?_
  · rw [looks.bindings]
    intro other here
    obtain ⟨old, there, rfl⟩ := List.mem_map.mp here
    refine .inl ⟨old, there, ?_⟩
    split <;> exact ⟨rfl, rfl, rfl⟩
  · rw [looks.registry]
    exact fun _ _ _ _ found => found

theorem step_current {told : Option BindingId} {before after : Stage}
    (step : Step told before after) (sound : Sound before [])
    (recorded : Recorded before (awaits (before.pending ++ [])))
    (current : Current before) : Current after := by
  cases step with
  | unbound passes =>
    refine current.of_bindings_eq passes.bindings
      (passes.adds.undispatched fun _ => Event.isIdle_of_isUnbound) ?_
    intro binding _ name options found
    rw [passes.registered, found]
  | released chosen =>
    have releases := release_releases before chosen
    refine current.congr ?_ (releases.adds.undispatched fun _ => Event.isIdle_of_isEnding) ?_
    · intro binding here
      rw [releases.bindings] at here
      exact .inl ⟨binding, (List.mem_filter.mp here).1, rfl, rfl, rfl⟩
    · rw [releases.registry]
      exact fun _ _ _ _ found => found
  | installed label animation chain =>
    exact schedule_current (bind_sound sound label animation chain)
      (bind_current recorded current label animation chain) _ _
  | changed tells => exact schedule_current sound current _ _
  | entered here responds =>
    rename_i entering
    rw [enter_eq]
    exact schedule_current (lookAt_sound sound entering) (lookAt_current current entering) _ _
  | tornDown element gone =>
    refine current.of_bindings_eq rfl
      (.single rfl rfl) ?_
    intro binding here name options found
    exact Registry.registered_release found (gone binding here)

/-- **Operations leave every binding, and its name, with its last dispatch.** -/
theorem performAll_current {stage : Stage} (sound : Sound stage [])
    (recorded : Recorded stage (awaits (stage.pending ++ []))) (current : Current stage)
    (operations : List Operation) : Current (stage.performAll operations) := by
  refine (performAll_invariant (fun stage queue =>
      Sound stage queue ∧ Recorded stage (awaits (stage.pending ++ queue)) ∧ Current stage)
    (fun _ all => all.1.distinct) ?_ ?_ ?_ operations stage ⟨sound, recorded, current⟩).2.2
  · intro stage all
    exact ⟨takeUp_sound all.1, takeUp_recorded all.2.1,
      all.2.2.of_bindings_eq rfl (Adds.refl _ stage) (fun _ _ _ _ found => found)⟩
  · intro stage waiting queue plays all
    exact ⟨pollRun_sound all.1 plays, pollRun_recorded all.1 all.2.1 plays,
      pollRun_current all.1 all.2.2 plays⟩
  · intro told before after step all
    exact ⟨step_sound step all.1, step_recorded step all.1 all.2.1,
      step_current step all.1 all.2.1 all.2.2⟩

end Stage

end Choreography
