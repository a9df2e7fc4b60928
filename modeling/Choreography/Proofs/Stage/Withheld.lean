import Choreography.Helper.Catalogue
import Choreography.Proofs.Fields.Mapped
import Choreography.Proofs.Resolution.Names
import Choreography.Proofs.Stage.Handles
import Choreography.Proofs.Stage.Registration

/-!
# What the engine is not shown

Three of the fields that a run resolves describe a scroll position.  They are split off once, at
the dispatch, but the other fields go four ways from there: to the plays of the run, to its
binding, and under the name of the animation to replays and timelines.  **None of the three gets
past the dispatch, and the others all do** (`scroll_fields_withheld`); what the three say goes
into the links that the run makes, and nowhere else.

* `PassesOn`, `Links` — what is made of the resolved fields, told without the split;
* `Event.Withholds` — an event passes on what the last dispatch before it has resolved;
* `Withholding` — the invariant: all events did, and the names of options are distinct wherever
  they come from.
-/

namespace Choreography

/-! ## Fields about scrolling -/

/-- The names of the fields that describe a scroll position. -/
def scrollFields : List String := ["scrollTarget", "scrollContainer", "scrollAxis"]

/-- Options that are some resolved fields but those that describe a scroll position, in their
order and with their values. -/
structure PassesOn (resolved options : Fields Value) : Prop where
  hidden : ∀ name ∈ scrollFields, name ∉ Fields.keys options
  others : options = resolved.filter fun field => field.1 ∉ scrollFields

/-- A link with what some resolved fields say, and an axis for when they name none. -/
structure Links (axis : ScrollAxis) (resolved : Fields Value) (link : ScrollLink) : Prop where
  target : link.target = Fields.get? resolved "scrollTarget"
  container : link.container = Fields.get? resolved "scrollContainer"
  axis : link.axis = ((Fields.get? resolved "scrollAxis").bind ScrollLink.axisOf?).getD axis

namespace ScrollLink

theorem isLinkField_iff (name : String) : isLinkField name = true ↔ name ∈ scrollFields := by
  simp [isLinkField, scrollFields, targetField, containerField, axisField, or_assoc]

theorem passesOn_otherFields (resolved : Fields Value) :
    PassesOn resolved (otherFields resolved) := by
  have kept : otherFields resolved = resolved.filter fun field => field.1 ∉ scrollFields := by
    refine List.filter_congr fun field _ => ?_
    rw [Bool.eq_iff_iff, Bool.not_eq_true', decide_eq_true_iff, ← isLinkField_iff,
      Bool.not_eq_true]
  refine ⟨fun name scrolls here => ?_, kept⟩
  rw [kept] at here
  obtain ⟨field, there, rfl⟩ := List.mem_map.mp here
  exact of_decide_eq_true (List.mem_filter.mp there).2 scrolls

/-- The link that fields with distinct names add to another one. -/
theorem foldl_take {fields : List (String × Value)} (distinct : (Fields.keys fields).Nodup)
    (link : ScrollLink) :
    fields.foldl take link =
      ⟨(Fields.get? fields targetField).or link.target,
        (Fields.get? fields containerField).or link.container,
        ((Fields.get? fields axisField).bind axisOf?).getD link.axis⟩ := by
  induction fields generalizing link with
  | nil => rfl
  | cons field rest ih =>
    obtain ⟨name, value⟩ := field
    obtain ⟨fresh, others⟩ := List.nodup_cons.mp distinct
    have absent : Fields.get? rest name = none := Fields.get?_eq_none_iff.mpr fresh
    have different : targetField ≠ containerField ∧ targetField ≠ axisField ∧
        containerField ≠ axisField := by decide
    obtain ⟨first, second, third⟩ := different
    rw [List.foldl_cons, ih others, take]
    -- a field that is taken is not among the later ones, so that none of them replaces it
    by_cases target : name = targetField
    · subst target
      simp [Fields.get?, absent, first, second]
    · by_cases container : name = containerField
      · subst container
        simp [Fields.get?, absent, target, third]
      · by_cases axis : name = axisField
        · subst axis
          simp [Fields.get?, absent, target, container]
        · simp [Fields.get?, target, container, axis]

theorem links_ofFields {resolved : Fields Value} (distinct : (Fields.keys resolved).Nodup)
    (axis : ScrollAxis) : Links axis resolved (ofFields axis resolved) := by
  rw [ofFields, foldl_take distinct]
  exact ⟨Option.or_none, Option.or_none, rfl⟩

end ScrollLink

/-! ## What events pass on -/

namespace Event

/-- Whether an event neither passes on what was resolved nor is about a name. -/
def isQuiet : Event → Bool
  | .animated .direct .. => true
  | .animated .. => false
  | .sequenced .. => false
  | .linkedScroll .. => false
  | .dispatched .. => false
  | .tornDown _ => false
  | _ => true

/-- What an event passes on after a history is what the last dispatch has resolved, of the
binding or under the name for which it does so, without what describes a scroll position; a link
has what this dispatch has resolved about it. -/
def Withholds (axis : ScrollAxis) (early : List Event) : Event → Prop
  | .dispatched _ _ _ _ resolved => (Fields.keys resolved).Nodup
  | .animated (.run run id _) _ _ options =>
    ∃ resolved, lastDispatch? id early = some (run, resolved) ∧ PassesOn resolved options
  | .animated (.replay name) _ _ options =>
    ∃ run id resolved, lastUse? name early = some (run, id, resolved) ∧
      PassesOn resolved options
  | .sequenced _ steps _ =>
    ∀ step ∈ steps, ∃ run id resolved, lastUse? step.name early = some (run, id, resolved) ∧
      PassesOn resolved step.options
  | .linkedScroll id handle link =>
    ∃ run name element options rest resolved,
      early = .animated (.run run id name) handle element options :: rest ∧
      lastDispatch? id rest = some (run, resolved) ∧ Links axis resolved link
  | _ => True

variable {event : Event}

theorem withholds_of_isQuiet (quiet : event.isQuiet = true) (axis : ScrollAxis)
    (early : List Event) : event.Withholds axis early := by
  cases event with
  | animated cause => cases cause <;> trivial
  | _ => trivial

theorem leavesNames_of_isQuiet (quiet : event.isQuiet = true) : event.leavesNames = true := by
  cases event with
  | animated cause => cases cause <;> first | rfl | cases quiet
  | _ => first | rfl | cases quiet

theorem isQuiet_of_isNotice (notice : event.isNotice = true) : event.isQuiet = true := by
  cases event <;> first | rfl | cases notice

theorem isQuiet_of_isEnding (ending : event.isEnding = true) : event.isQuiet = true := by
  cases event <;> first | rfl | cases ending

theorem isQuiet_of_isBeginning (beginning : event.isBeginning = true) :
    event.isQuiet = true := by
  cases event <;> first | rfl | cases beginning

theorem isNoDispatch_of_isNotice (notice : event.isNotice = true) :
    event.isNoDispatch = true := by
  cases event <;> first | rfl | cases notice

end Event

/-- A history in which every event withholds what describes a scroll position. -/
def Withheld (axis : ScrollAxis) : List Event → Prop
  | [] => True
  | event :: early => event.Withholds axis early ∧ Withheld axis early

namespace Withheld

variable {axis : ScrollAxis} {history : List Event}

theorem append (withheld : Withheld axis history) {events : List Event}
    (quiet : ∀ event ∈ events, event.isQuiet = true) : Withheld axis (events ++ history) := by
  induction events with
  | nil => exact withheld
  | cons event rest ih =>
    obtain ⟨first, others⟩ := List.forall_mem_cons.mp quiet
    exact ⟨Event.withholds_of_isQuiet first axis _, ih others⟩

theorem of_split {late early : List Event} {event : Event} (withheld : Withheld axis history)
    (split : history = late ++ event :: early) : event.Withholds axis early := by
  induction late generalizing history with
  | nil =>
    subst split
    exact withheld.1
  | cons first late ih =>
    subst split
    exact ih withheld.2 rfl

end Withheld

/-- What a name stands for is what the last dispatch under it has left. -/
theorem Stands.lastUse? {name : String} {element : ElementId} {options : Fields Value}
    {history : List Event} (stands : Stands name element options history) :
    ∃ run id resolved, Choreography.lastUse? name history = some (run, id, resolved) ∧
      PassesOn resolved options := by
  obtain ⟨since, run, id, resolved, before, rfl, rfl, unused, -⟩ := stands
  refine ⟨run, id, resolved, ?_, ScrollLink.passesOn_otherFields resolved⟩
  rw [Choreography.lastUse?, List.findSome?_append, List.findSome?_eq_none_iff.mpr unused,
    Option.none_or, List.findSome?_cons, Event.use?, if_pos rfl]

namespace Stage

/-! ## Dispatches -/

section

variable {axis : ScrollAxis} {before after : Stage} {run : RunId} {resolved : Fields Value}

/-- The plays of a run pass on what was dispatched just before them. -/
theorem Performs.withheld {id : BindingId} {options : Fields Value} {link : ScrollLink}
    {count : Nat} (performs : Performs run id options link count before after)
    (passes : PassesOn resolved options) (links : Links axis resolved link)
    (last : lastDispatch? id before.history = some (run, resolved))
    (withheld : Withheld axis before.history) :
    Withheld axis after.history ∧ lastDispatch? id after.history = some (run, resolved) := by
  -- no play is a dispatch, so the last one stays the last along the plays
  induction performs with
  | nothing => exact ⟨withheld, last⟩
  | played _ found ih =>
    obtain ⟨early, still⟩ := ih last withheld
    rw [history_play found]
    exact ⟨⟨⟨resolved, still, passes⟩, early⟩, still⟩
  | linked _ found ih =>
    obtain ⟨early, still⟩ := ih last withheld
    rw [record, history_play found, play_eq found]
    exact ⟨⟨⟨run, _, _, options, _, resolved, rfl, still, links⟩, ⟨resolved, still, passes⟩,
      early⟩, still⟩

theorem dispatch_withheld {binding : Binding}
    (found : before.binding? binding.id = some binding) (reason : RunReason)
    (distinct : (Fields.keys resolved).Nodup)
    (withheld : Withheld before.settings.scrollAxis before.history) :
    Withheld before.settings.scrollAxis
      (before.dispatch run binding.id reason resolved).1.history := by
  -- only notices are around the record of the dispatch
  obtain ⟨late, early, noticed, notices, added⟩ := history_prepare before run binding resolved
  have prepared : Withheld before.settings.scrollAxis
      (before.prepare run binding resolved).1.history := by
    have begun : Withheld before.settings.scrollAxis
        (.dispatched run binding.id binding.animation.name binding.element resolved ::
          (early ++ before.history)) :=
      ⟨distinct, withheld.append fun event here => Event.isQuiet_of_isNotice (notices event here)⟩
    rw [added]
    exact begun.append fun event here => Event.isQuiet_of_isNotice (noticed event here)
  have last : lastDispatch? binding.id (before.prepare run binding resolved).1.history =
      some (run, resolved) := by
    rw [added, lastDispatch?_append binding.id fun event here =>
      Event.isNoDispatch_of_isNotice (noticed event here), lastDispatch?, List.findSome?_cons,
      Event.dispatch?, if_pos rfl]
  exact ((dispatch_performs found run reason resolved).withheld
    (ScrollLink.passesOn_otherFields resolved) (ScrollLink.links_ofFields distinct _) last
    prepared).1

end

/-! ## The invariant -/

/-- A stage on which every event has withheld what describes a scroll position, with the runs
that a tick has still to poll.  The names of the options that are resolved, and so of those that
are dispatched, are distinct. -/
structure Withholding (axis : ScrollAxis) (stage : Stage) (queue : List PendingRun) : Prop where
  axis_eq : stage.settings.scrollAxis = axis
  reflects : Reflects stage
  history : Withheld axis stage.history
  bound : ∀ binding ∈ stage.bindings, (Fields.keys binding.animation.options).Nodup
  waits : ∀ waiting ∈ stage.pending ++ queue, (Fields.keys waiting.options).Nodup

theorem new_withholding (settings : Settings) (data : Store) (source : HelperSupply) :
    Withholding settings.scrollAxis (new settings data source) [] where
  axis_eq := rfl
  reflects := new_reflects settings data source
  history := trivial
  bound := nofun
  waits := nofun

section

variable {axis : ScrollAxis} {stage after : Stage} {queue later : List PendingRun}

/-- What passes nothing on and leaves names alone may keep or drop bindings and runs. -/
theorem Withholding.keep (withholding : Withholding axis stage queue)
    (settings : after.settings = stage.settings) (registry : after.registry = stage.registry)
    (bindings : ∀ binding ∈ after.bindings,
      ∃ old ∈ stage.bindings, binding.animation = old.animation)
    (pending : after.pending ++ later ⊆ stage.pending ++ queue)
    (adds : Adds Event.isQuiet stage after) : Withholding axis after later where
  axis_eq := settings ▸ withholding.axis_eq
  reflects := withholding.reflects.keep registry (adds.mono fun _ => Event.leavesNames_of_isQuiet)
  history := by
    obtain ⟨events, quiet, added⟩ := adds
    rw [added]
    exact withholding.history.append quiet
  bound := by
    intro binding here
    obtain ⟨old, there, same⟩ := bindings binding here
    rw [same]
    exact withholding.bound old there
  waits := fun waiting here => withholding.waits waiting (pending here)

/-- The same where bindings and waiting runs stay as they are. -/
theorem Withholding.of_same (withholding : Withholding axis stage queue)
    (settings : after.settings = stage.settings) (registry : after.registry = stage.registry)
    (bindings : after.bindings = stage.bindings) (pending : after.pending = stage.pending)
    (adds : Adds Event.isQuiet stage after) : Withholding axis after queue :=
  withholding.keep settings registry (fun binding here => ⟨binding, bindings ▸ here, rfl⟩)
    (pending ▸ List.Subset.refl _) adds

/-! ## Runs -/

/-- A run that goes on dispatches what was resolved, under distinct names, or waits with them. -/
theorem advance_withholding (withholding : Withholding axis stage queue) {binding : Binding}
    (found : stage.binding? binding.id = some binding) (run : RunId) (reason : RunReason)
    {outcome : Except ResolveError Resolution}
    (distinct : ∀ resolution, outcome = .ok resolution → resolution.names.Nodup) :
    Withholding axis (stage.advance run binding reason outcome).1 queue := by
  have reflects := advance_reflects withholding.reflects found run reason outcome
  match outcome with
  | .ok (.ready resolved) =>
    have dispatches := dispatch_dispatches found run reason resolved
    obtain ⟨change, touches, -, changed⟩ := dispatches.bindings
    obtain rfl := withholding.axis_eq
    refine ⟨congrArg Settings.scrollAxis dispatches.keeps.settings, reflects,
      dispatch_withheld found reason (distinct _ rfl) withholding.history, ?_, ?_⟩
    · intro other here
      rw [show (stage.advance run binding reason (.ok (.ready resolved))).1.bindings =
        stage.bindings.map change from changed] at here
      obtain ⟨old, there, rfl⟩ := List.mem_map.mp here
      rw [touches.animation_eq]
      exact withholding.bound old there
    · rw [show (stage.advance run binding reason (.ok (.ready resolved))).1.pending =
        stage.pending from dispatches.keeps.pending]
      exact withholding.waits
  | .ok (.pending options) =>
    refine ⟨withholding.axis_eq, reflects, withholding.history, withholding.bound, ?_⟩
    intro waiting here
    rcases List.mem_append.mp here with here | here
    · rcases List.mem_append.mp here with here | here
      · exact withholding.waits waiting (List.mem_append_left _ here)
      · rw [List.mem_singleton.mp here]
        exact distinct _ rfl
    · exact withholding.waits waiting (List.mem_append_right _ here)
  | .error error =>
    exact withholding.of_same rfl rfl rfl rfl
      ⟨[.reported (failure binding.animation.label error), .failed run binding.id error],
        by simp [Event.isQuiet], rfl⟩

theorem schedule_withholding (withholding : Withholding axis stage queue) (id : BindingId)
    (reason : RunReason) : Withholding axis (stage.schedule id reason).1 queue := by
  cases found : stage.binding? id with
  | none =>
    rw [schedule_of_none found]
    exact withholding
  | some binding =>
    obtain ⟨here, rfl⟩ := mem_bindings_of_binding? found
    have started : Withholding axis (stage.start binding reason) queue :=
      withholding.of_same rfl rfl rfl rfl (.single rfl rfl)
    rw [schedule_eq found]
    refine advance_withholding started found _ reason fun resolution comes => ?_
    rw [Template.names_of_resolve comes]
    exact withholding.bound binding here

theorem pollRun_withholding {waiting : PendingRun}
    (withholding : Withholding axis stage (waiting :: queue)) (plays : Nat) :
    Withholding axis (pollRun (stage, plays) waiting).1 queue := by
  have fewer : stage.pending ++ queue ⊆ stage.pending ++ waiting :: queue :=
    ((List.sublist_cons_self waiting queue).append_left _).subset
  cases found : stage.binding? waiting.binding with
  | none =>
    rw [pollRun_of_none found]
    exact withholding.keep rfl rfl (fun binding here => ⟨binding, here, rfl⟩) fewer
      (.single rfl rfl)
  | some binding =>
    have still := binding?_polled found
    have polled : Withholding axis (stage.polled waiting) queue :=
      withholding.keep rfl rfl (fun binding here => ⟨binding, here, rfl⟩) fewer (Adds.refl _ stage)
    rw [pollRun_eq found]
    refine advance_withholding polled still _ _ fun resolution comes => ?_
    rw [PendingOptions.names_of_poll comes]
    exact withholding.waits waiting (List.mem_append_right _ List.mem_cons_self)

/-! ## Operations -/

theorem release_withholding (withholding : Withholding axis stage []) (chosen : Binding → Bool) :
    Withholding axis (stage.release chosen) [] := by
  have releases := release_releases stage chosen
  refine withholding.keep releases.settings releases.registry ?_ ?_
    (releases.adds.mono fun _ => Event.isQuiet_of_isEnding)
  · intro binding here
    rw [releases.bindings] at here
    exact ⟨binding, (List.mem_filter.mp here).1, rfl⟩
  · rw [releases.pending]
    exact (List.filter_sublist.append_right []).subset

theorem bind_withholding (withholding : Withholding axis stage []) (label : String)
    {animation : Animation} (distinct : (Fields.keys animation.options).Nodup) (chain : Chain) :
    Withholding axis (stage.bind label animation chain).1 [] := by
  have binds := bind_binds stage label animation chain
  obtain ⟨subscriptions, bindings⟩ := binds.bindings
  obtain ⟨events, beginning, added⟩ := binds.adds
  refine ⟨congrArg Settings.scrollAxis binds.settings |>.trans withholding.axis_eq,
    bind_reflects withholding.reflects label animation chain, ?_, ?_, ?_⟩
  · rw [added]
    exact withholding.history.append fun event here =>
      Event.isQuiet_of_isBeginning (beginning event here)
  · rw [bindings]
    intro binding here
    rcases List.mem_append.mp here with here | here
    · exact withholding.bound binding here
    · rw [List.mem_singleton.mp here]
      exact distinct
  · rw [binds.pending]
    exact withholding.waits

theorem enter_withholding (withholding : Withholding axis stage []) (binding : Binding) :
    Withholding axis (stage.enter binding) [] := by
  have looks := lookAt_looks stage binding
  rw [enter_eq]
  refine schedule_withholding (withholding.keep looks.settings looks.registry ?_ ?_
    (looks.adds.mono fun _ => Event.isQuiet_of_isEnding)) _ .enteredView
  · rw [looks.bindings]
    intro other here
    obtain ⟨old, there, rfl⟩ := List.mem_map.mp here
    refine ⟨old, there, ?_⟩
    split <;> rfl
  · rw [looks.pending]
    exact List.Subset.refl _

theorem report_withholding (withholding : Withholding axis stage []) (diagnostic : Diagnostic) :
    Withholding axis (stage.report diagnostic) [] :=
  withholding.of_same rfl rfl rfl rfl (.single rfl rfl)

theorem apply_withholding (withholding : Withholding axis stage []) (element : ElementId)
    (directive : Directive) (chain : Chain) :
    Withholding axis (stage.apply element directive chain).1 [] := by
  refine apply_induction_compiled (motive := fun stage => Withholding axis stage [])
    (release_withholding withholding _)
    (fun _ diagnostic withholding => report_withholding withholding diagnostic) ?_
  intro before label animation here withholding
  exact schedule_withholding
    (bind_withholding withholding label (directive.nodup_keys_of_mem_compile _ _ here) chain) _ .initial

theorem tick_withholding (withholding : Withholding axis stage []) :
    Withholding axis stage.tick.1 [] := by
  have begun : Withholding axis stage.takeUp stage.pending :=
    withholding.keep rfl rfl (fun binding here => ⟨binding, here, rfl⟩)
      (List.append_nil _ ▸ List.Subset.refl _) (Adds.refl _ stage)
  exact foldl_pollRun_invariant (Withholding axis)
    (fun _ _ _ plays withholding => pollRun_withholding withholding plays)
    stage.pending (stage.takeUp, 0) begun

/-- What is registered under a name was left by the last dispatch under it. -/
theorem Withholding.lastUse? (withholding : Withholding axis stage queue) {name : String}
    {record : Registry.Record} (found : Fields.get? stage.registry name = some record) :
    ∃ run id resolved, Choreography.lastUse? name stage.history = some (run, id, resolved) ∧
      PassesOn resolved record.options := by
  rw [withholding.reflects.records] at found
  exact (recalled_eq_some_iff.mp found).1.lastUse?

theorem lookup_withholding (withholding : Withholding axis stage []) (name : String) :
    Withholding axis (stage.lookup name).1 [] := by
  have reflects := lookup_reflects withholding.reflects name
  revert reflects
  unfold lookup
  split
  · exact fun _ => report_withholding withholding _
  · rename_i record found
    exact fun reflects => ⟨withholding.axis_eq, reflects,
      ⟨withholding.lastUse? found, withholding.history⟩, withholding.bound, withholding.waits⟩

theorem sequence_withholding (withholding : Withholding axis stage []) (names : List String)
    (options : Fields Value) : Withholding axis (stage.sequence names options).1 [] := by
  refine sequence_induction (motive := fun stage => Withholding axis stage []) withholding names
    options (fun _ diagnostic _ withholding => report_withholding withholding diagnostic)
    fun before registry withholding => ?_
  -- what a step of the timeline passes on is what is registered under its name
  have steps : ∀ step ∈ TimelineStep.ofNames stage.registry names,
      ∃ run id resolved, Choreography.lastUse? step.name before.history =
        some (run, id, resolved) ∧ PassesOn resolved step.options := by
    intro step here
    obtain ⟨name, -, given⟩ := List.mem_filterMap.mp here
    obtain ⟨record, found, rfl⟩ := Option.map_eq_some_iff.mp given
    exact withholding.lastUse? (registry ▸ found)
  exact ⟨withholding.axis_eq, withholding.reflects.keep rfl (.single rfl rfl),
    ⟨steps, withholding.history⟩, withholding.bound, withholding.waits⟩

theorem perform_withholding (withholding : Withholding axis stage []) (operation : Operation) :
    Withholding axis (stage.perform operation) [] := by
  cases operation with
  | apply element directive chain => exact apply_withholding withholding element directive chain
  | input input =>
    refine handle_induction (motive := fun stage => Withholding axis stage []) withholding input
      (release_withholding withholding)
      (fun _ binding withholding => enter_withholding withholding binding)
      (fun id => schedule_withholding withholding id .sourceChanged)
      fun before element withholding => ?_
    exact ⟨withholding.axis_eq, tornDown_reflects withholding.reflects element,
      ⟨trivial, withholding.history⟩, withholding.bound, withholding.waits⟩
  | tick => exact tick_withholding withholding
  | lookup name => exact lookup_withholding withholding name
  | sequence names options => exact sequence_withholding withholding names options
  | deliver name delivery =>
    show Withholding axis ((stage.deliver? name delivery).getD stage) []
    cases delivered : stage.deliver? name delivery with
    | none => exact withholding
    | some later =>
      obtain ⟨loader, -, rfl⟩ := Option.map_eq_some_iff.mp delivered
      exact withholding.of_same rfl rfl rfl rfl (Adds.refl _ stage)
  | animate element options => exact withholding.of_same rfl rfl rfl rfl (.single rfl rfl)
  | followScroll link => exact withholding.of_same rfl rfl rfl rfl (.single rfl rfl)
  | _ => exact withholding.of_same rfl rfl rfl rfl (Adds.refl _ stage)

/-- **Operations pass on nothing that describes a scroll position.** -/
theorem performAll_withholding (withholding : Withholding axis stage [])
    (operations : List Operation) : Withholding axis (stage.performAll operations) [] :=
  List.foldlRecOn (motive := fun stage => Withholding axis stage []) operations perform
    withholding fun _ withholding operation _ =>
    perform_withholding withholding operation

end

/-- **What describes a scroll position is withheld.**  After any operations on a new stage:

* what a run has played, what was replayed by name and what was a step of a timeline are the
  fields that the last dispatch of the binding, or under the name, had resolved by then, all but
  the three that describe a scroll position, in their order;
* so are the options in the registry and in the bindings that are in force;
* a scroll position was linked only directly after a play of a run, and the link has what this
  run has resolved about it, and the axis of the settings if it has resolved none;
* no run has resolved two fields of one name. -/
theorem scroll_fields_withheld (settings : Settings) (data : Store) (source : HelperSupply)
    (operations : List Operation) :
    let stage := (new settings data source).performAll operations
    (∀ late early run id name handle element options,
      stage.history = late ++ .animated (.run run id name) handle element options :: early →
        ∃ resolved, lastDispatch? id early = some (run, resolved) ∧ PassesOn resolved options) ∧
    (∀ late early name handle element options,
      stage.history = late ++ .animated (.replay name) handle element options :: early →
        ∃ run id resolved, lastUse? name early = some (run, id, resolved) ∧
          PassesOn resolved options) ∧
    (∀ late early handle steps options,
      stage.history = late ++ .sequenced handle steps options :: early →
        ∀ step ∈ steps, ∃ run id resolved,
          lastUse? step.name early = some (run, id, resolved) ∧ PassesOn resolved step.options) ∧
    (∀ name record, (name, record) ∈ stage.registry →
      ∃ run id resolved, lastUse? name stage.history = some (run, id, resolved) ∧
        PassesOn resolved record.options) ∧
    (∀ binding ∈ stage.bindings, ∀ options, binding.options = some options →
      ∃ run resolved, lastDispatch? binding.id stage.history = some (run, resolved) ∧
        PassesOn resolved options) ∧
    (∀ late early id handle link,
      stage.history = late ++ .linkedScroll id handle link :: early →
        ∃ run name element options rest resolved,
          early = .animated (.run run id name) handle element options :: rest ∧
          lastDispatch? id rest = some (run, resolved) ∧
          Links settings.scrollAxis resolved link) ∧
    ∀ run id name element resolved,
      .dispatched run id name element resolved ∈ stage.history →
        (Fields.keys resolved).Nodup := by
  intro stage
  have withholding : Withholding settings.scrollAxis stage [] :=
    performAll_withholding (new_withholding settings data source) operations
  have current : Current stage :=
    performAll_current (new_sound settings data source) (new_recorded settings data source)
      (new_current settings data source) operations
  refine ⟨fun _ _ _ _ _ _ _ _ split => withholding.history.of_split split,
    fun _ _ _ _ _ _ split => withholding.history.of_split split,
    fun _ _ _ _ _ split => withholding.history.of_split split, ?_, ?_,
    fun _ _ _ _ _ split => withholding.history.of_split split, ?_⟩
  · intro name record here
    exact withholding.lastUse? ((Fields.mem_iff_get? withholding.reflects.distinct).mp here)
  · intro binding here options held
    obtain ⟨⟨run, resolved⟩, last, rfl⟩ :=
      Option.map_eq_some_iff.mp ((current.options binding here).symm.trans held)
    exact ⟨run, resolved, last, ScrollLink.passesOn_otherFields resolved⟩
  · intro run id name element resolved here
    obtain ⟨late, early, split⟩ := List.append_of_mem here
    exact withholding.history.of_split split

/-- The axis is resolved with the other fields, and stays behind when they are registered. -/
example :
    let stage := (new .standard [] (Helper.builtinSource 0)).performAll
      [.apply ⟨1⟩ ⟨none, ["scroll"], "slide: \x7bx: 1, scrollAxis: X, y: 2\x7d"⟩ []]
    (lastUse? "slide" stage.history).map (fun use => Fields.keys use.2.2) =
        some ["x", "scrollAxis", "y"] ∧
      (Fields.get? stage.registry "slide").map (fun record => Fields.keys record.options) =
        some ["x", "y"] := by
  decide +kernel

end Stage

end Choreography
