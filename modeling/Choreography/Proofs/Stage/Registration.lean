import Choreography.Helper.Catalogue
import Choreography.Proofs.Stage.Attribution
import Choreography.Proofs.Stage.Latest

/-!
# What a name stands for

A name is written by every dispatch under it, noted by every play of it, and forgotten with the
element that has it.  Other events leave it alone, so the history alone says what each name
stands for (`recalled`), and **the registry says the same** (`registry_reflects_dispatches`).

* `Stands` — the last dispatch under a name was for an element that was not torn down since;
* `Inserted` — a dispatch found its name unregistered, and no later one did;
* `Reflects` — the invariant: every look-up of a name answers what is recalled of it.
-/

namespace Choreography

namespace Event

/-- The handle of a play under a name. -/
def playUnder? (name : String) : Event → Option Handle
  | .animated cause handle _ _ => if cause.name? = some name then some handle else none
  | _ => none

/-- What a name stands for after an event, if it stood for something before. -/
def revise (name : String) (event : Event) (record? : Option Registry.Record) :
    Option Registry.Record :=
  match event with
  | .dispatched _ _ named element resolved =>
    if named = some name then
      some ⟨element, ScrollLink.otherFields resolved, record?.bind Registry.Record.lastRun⟩
    else record?
  | .animated cause handle _ _ =>
    if cause.name? = some name then
      record?.map fun record => { record with lastRun := some handle }
    else record?
  | .tornDown element => record?.filter fun record => record.element ≠ element
  | _ => record?

/-- Whether an event leaves all names with what they stand for. -/
def leavesNames : Event → Bool
  | .dispatched _ _ name _ _ => name.isNone
  | .animated cause _ _ _ => cause.name?.isNone
  | .tornDown _ => false
  | _ => true

theorem revise_of_leavesNames {event : Event} (leaves : event.leavesNames = true) (name : String)
    (record? : Option Registry.Record) : event.revise name record? = record? := by
  cases event with
  | dispatched run binding named =>
    rw [revise, Option.isNone_iff_eq_none.mp leaves, if_neg nofun]
  | animated cause =>
    rw [revise, Option.isNone_iff_eq_none.mp leaves, if_neg nofun]
  | tornDown => cases leaves
  | _ => rfl

theorem leavesNames_of_isNotice {event : Event} (notice : event.isNotice = true) :
    event.leavesNames = true := by
  cases event <;> first | rfl | cases notice

theorem leavesNames_of_isEnding {event : Event} (ending : event.isEnding = true) :
    event.leavesNames = true := by
  cases event <;> first | rfl | cases ending

theorem leavesNames_of_isBeginning {event : Event} (beginning : event.isBeginning = true) :
    event.leavesNames = true := by
  cases event <;> first | rfl | cases beginning

end Event

/-- What a name stands for after a history. -/
def recalled (name : String) (history : List Event) : Option Registry.Record :=
  history.foldr (Event.revise name) none

theorem recalled_cons (name : String) (event : Event) (history : List Event) :
    recalled name (event :: history) = event.revise name (recalled name history) := rfl

theorem recalled_append (name : String) {events : List Event} (history : List Event)
    (leave : ∀ event ∈ events, event.leavesNames = true) :
    recalled name (events ++ history) = recalled name history := by
  induction events with
  | nil => rfl
  | cons event rest ih =>
    rw [List.cons_append, recalled_cons,
      Event.revise_of_leavesNames (leave event List.mem_cons_self)]
    exact ih fun other here => leave other (List.mem_cons_of_mem _ here)

/-! ## The last dispatch under a name -/

/-- A history in which the last dispatch under a name was for an element, which was not torn
down since, and left these options. -/
def Stands (name : String) (element : ElementId) (options : Fields Value)
    (history : List Event) : Prop :=
  ∃ since run id resolved before,
    history = since ++ .dispatched run id (some name) element resolved :: before ∧
    options = ScrollLink.otherFields resolved ∧
    (∀ event ∈ since, event.use? name = none) ∧ .tornDown element ∉ since

section

variable {name : String} {element : ElementId} {options : Fields Value}

theorem not_stands_nil : ¬ Stands name element options [] := by
  rintro ⟨since, run, id, resolved, before, split, -⟩
  cases since <;> cases split

/-- A name comes to stand for something by a dispatch, and goes on to until the next dispatch
or the end of its element. -/
theorem stands_cons {event : Event} {history : List Event} :
    Stands name element options (event :: history) ↔
      (∃ run id resolved, event = .dispatched run id (some name) element resolved ∧
        options = ScrollLink.otherFields resolved) ∨
      (event.use? name = none ∧ event ≠ .tornDown element ∧
        Stands name element options history) := by
  constructor
  · rintro ⟨since, run, id, resolved, before, split, rfl, unused, standing⟩
    cases since with
    | nil =>
      obtain ⟨rfl, rfl⟩ := List.cons.inj split
      exact .inl ⟨run, id, resolved, rfl, rfl⟩
    | cons first rest =>
      obtain ⟨rfl, others⟩ := List.cons.inj split
      refine .inr ⟨unused event List.mem_cons_self, (List.ne_of_not_mem_cons standing).symm,
        rest, run, id, resolved, before, others, rfl, ?_, List.not_mem_of_not_mem_cons standing⟩
      exact fun later here => unused later (List.mem_cons_of_mem _ here)
  · rintro (⟨run, id, resolved, rfl, rfl⟩ |
      ⟨first, other, since, run, id, resolved, before, rfl, rfl, unused, standing⟩)
    · exact ⟨[], run, id, resolved, history, rfl, rfl, nofun, List.not_mem_nil⟩
    · refine ⟨event :: since, run, id, resolved, before, rfl, rfl, ?_, ?_⟩
      · exact List.forall_mem_cons.mpr ⟨first, unused⟩
      · exact List.not_mem_cons_of_ne_of_not_mem other.symm standing

/-- What one event does to the element and the options of a name. -/
theorem revise_stands {event : Event} {record? : Option Registry.Record} :
    (∃ record, event.revise name record? = some record ∧
        record.element = element ∧ record.options = options) ↔
      (∃ run id resolved, event = .dispatched run id (some name) element resolved ∧
        options = ScrollLink.otherFields resolved) ∨
      (event.use? name = none ∧ event ≠ .tornDown element ∧
        ∃ record, record? = some record ∧ record.element = element ∧
          record.options = options) := by
  cases event with
  | dispatched run id named target resolved =>
    by_cases own : named = some name
    · subst own
      simp [Event.revise, Event.use?, eq_comm]
    · simp [Event.revise, Event.use?, own]
  | animated cause handle target values =>
    by_cases own : cause.name? = some name <;> simp [Event.revise, Event.use?, own]
  | tornDown target =>
    simp only [Event.revise, Event.use?, Option.filter_eq_some_iff, true_and, ne_eq,
      Event.tornDown.injEq, reduceCtorEq, false_and, exists_false, false_or, decide_eq_true_eq]
    constructor
    · rintro ⟨record, ⟨found, other⟩, rfl, rfl⟩
      exact ⟨Ne.symm other, record, found, rfl, rfl⟩
    · rintro ⟨other, record, found, rfl, rfl⟩
      exact ⟨record, ⟨found, Ne.symm other⟩, rfl, rfl⟩
  | _ => simp [Event.revise, Event.use?]

/-- The element and the options that are recalled of a name are those of its last dispatch. -/
theorem recalled_iff_stands {history : List Event} :
    (∃ record, recalled name history = some record ∧
        record.element = element ∧ record.options = options) ↔
      Stands name element options history := by
  induction history with
  | nil => exact iff_of_false (by rintro ⟨record, found, -⟩; cases found) not_stands_nil
  | cons event rest ih => rw [recalled_cons, revise_stands, stands_cons, ih]

end

/-! ## The last play under a name -/

/-- The events since a name was last registered anew: the dispatch that comes before them found
it stand for nothing, and every dispatch among them found it stand for something. -/
structure Inserted (name : String) (since : List Event) (insertion : Event)
    (before : List Event) : Prop where
  used : insertion.use? name ≠ none
  fresh : ∀ element options, ¬ Stands name element options before
  kept : ∀ newer event older, since = newer ++ event :: older → event.use? name ≠ none →
    ∃ element options, Stands name element options (older ++ insertion :: before)

/-- A history in which a play was the last one under a name since this was last registered
anew, if there was any. -/
def PlayedLast (name : String) (lastRun : Option Handle) (history : List Event) : Prop :=
  ∃ since insertion before, history = since ++ insertion :: before ∧
    Inserted name since insertion before ∧ lastRun = since.findSome? (Event.playUnder? name)

section

variable {name : String}

/-- There is only one dispatch since which a name is registered. -/
theorem Inserted.nil_of_append {since middle before older : List Event} {first second : Event}
    (late : Inserted name since first before) (early : Inserted name (since ++ middle) second older)
    (same : first :: before = middle ++ second :: older) : middle = [] := by
  cases middle with
  | nil => rfl
  | cons event rest =>
    -- the later of the two is a dispatch since the earlier one, so it found the name registered
    obtain ⟨rfl, rfl⟩ := List.cons.inj same
    obtain ⟨element, options, stands⟩ := early.kept since first rest rfl late.used
    exact (late.fresh element options stands).elim

theorem PlayedLast.unique {first second : Option Handle} {history : List Event}
    (played : PlayedLast name first history) (other : PlayedLast name second history) :
    first = second := by
  obtain ⟨since, insertion, before, rfl, inserted, rfl⟩ := played
  obtain ⟨since', insertion', before', split, inserted', rfl⟩ := other
  rcases List.append_eq_append_iff.mp split with ⟨middle, rfl, same⟩ | ⟨middle, rfl, same⟩
  · rw [inserted.nil_of_append inserted' same, List.append_nil]
  · rw [inserted'.nil_of_append inserted same, List.append_nil]

/-- What one event does to the last play of a name. -/
theorem lastRun_of_revise {event : Event} {record? : Option Registry.Record}
    {record : Registry.Record} (revised : event.revise name record? = some record) :
    record.lastRun =
      (event.playUnder? name).or (record?.bind Registry.Record.lastRun) := by
  cases event with
  | dispatched run id named target resolved =>
    rw [Event.revise] at revised
    split at revised <;> cases revised <;> rfl
  | animated cause handle target values =>
    rw [Event.playUnder?]
    by_cases own : cause.name? = some name
    · rw [Event.revise, if_pos own] at revised
      obtain ⟨old, rfl, rfl⟩ := Option.map_eq_some_iff.mp revised
      rw [if_pos own]
      rfl
    · rw [Event.revise, if_neg own] at revised
      rw [revised, if_neg own]
      rfl
  | tornDown target =>
    obtain ⟨rfl, -⟩ := Option.filter_eq_some_iff.mp revised
    rfl
  | _ =>
    cases revised
    rfl

/-- Only a dispatch makes a name stand for something that stood for nothing. -/
theorem use?_of_revise_none {event : Event} {record : Registry.Record}
    (revised : event.revise name none = some record) :
    event.use? name ≠ none ∧ event.playUnder? name = none := by
  cases event with
  | dispatched run id named target resolved =>
    by_cases own : named = some name
    · exact ⟨by simp [Event.use?, own], rfl⟩
    · rw [Event.revise, if_neg own] at revised
      cases revised
  | animated cause handle target values =>
    by_cases own : cause.name? = some name
    · rw [Event.revise, if_pos own] at revised
      cases revised
    · rw [Event.revise, if_neg own] at revised
      cases revised
  | _ => cases revised

/-- The last play that is recalled of a name is the last one since this was registered. -/
theorem recalled_playedLast {history : List Event} {record : Registry.Record}
    (found : recalled name history = some record) : PlayedLast name record.lastRun history := by
  induction history generalizing record with
  | nil => cases found
  | cons event rest ih =>
    rw [recalled_cons] at found
    have lastRun := lastRun_of_revise found
    cases before : recalled name rest with
    | none =>
      -- the name stood for nothing, so the event is the dispatch that registers it
      rw [before] at found lastRun
      obtain ⟨used, unplayed⟩ := use?_of_revise_none found
      rw [unplayed] at lastRun
      refine ⟨[], event, rest, rfl, ⟨used, fun element options stands => ?_, ?_⟩, lastRun⟩
      · obtain ⟨record, there, -⟩ := recalled_iff_stands.mpr stands
        cases before.symm.trans there
      · intro newer event older split
        cases newer <;> cases split
    | some old =>
      -- the name stood for something, so it is still registered since the same dispatch
      obtain ⟨since, insertion, earlier, split, inserted, oldRun⟩ := ih before
      refine ⟨event :: since, insertion, earlier, congrArg _ split,
        ⟨inserted.used, inserted.fresh, ?_⟩, ?_⟩
      · intro newer other older same used
        cases newer with
        | nil =>
          obtain ⟨-, rfl⟩ := List.cons.inj same
          rw [← split]
          exact ⟨old.element, old.options, recalled_iff_stands.mp ⟨old, before, rfl, rfl⟩⟩
        | cons first newer =>
          exact inserted.kept newer other older (List.cons.inj same).2 used
      · rw [lastRun, before, Option.bind_some, oldRun, List.findSome?_cons]
        cases event.playUnder? name <;> rfl

/-- **What is recalled of a name is what the history says of its last dispatch and its last
play.** -/
theorem recalled_eq_some_iff {history : List Event} {record : Registry.Record} :
    recalled name history = some record ↔
      Stands name record.element record.options history ∧
        PlayedLast name record.lastRun history := by
  constructor
  · intro found
    exact ⟨recalled_iff_stands.mp ⟨record, found, rfl, rfl⟩, recalled_playedLast found⟩
  · rintro ⟨stands, played⟩
    obtain ⟨⟨element, options, lastRun⟩, found, rfl, rfl⟩ := recalled_iff_stands.mpr stands
    have same : lastRun = record.lastRun := (recalled_playedLast found).unique played
    rw [found, same]

end

namespace Stage

/-! ## The registry reflects what happened -/

/-- A stage on which every look-up of a name answers what is recalled of it. -/
structure Reflects (stage : Stage) : Prop where
  distinct : (Fields.keys stage.registry).Nodup
  records : ∀ name, Fields.get? stage.registry name = recalled name stage.history

theorem new_reflects (settings : Settings) (data : Store) (source : HelperSupply) :
    Reflects (new settings data source) :=
  ⟨List.nodup_nil, fun _ => rfl⟩

section

variable {stage after : Stage}

/-- What leaves the registry as it is may only add events that leave names alone. -/
theorem Reflects.keep (reflects : Reflects stage) (registry : after.registry = stage.registry)
    (adds : Adds Event.leavesNames stage after) : Reflects after := by
  obtain ⟨events, leave, added⟩ := adds
  refine ⟨registry ▸ reflects.distinct, fun name => ?_⟩
  rw [registry, added, recalled_append name stage.history leave, reflects.records]

/-- A play under a name is noted in its record. -/
theorem Reflects.played (reflects : Reflects stage) {cause : Cause} {handle : Handle}
    {element : ElementId} {options : Fields Value} {name : String}
    (added : after.history = .animated cause handle element options :: stage.history)
    (own : cause.name? = some name)
    (registry : after.registry = stage.registry.setLastRun name handle) : Reflects after := by
  refine ⟨?_, fun other => ?_⟩
  · rw [registry]
    exact Registry.nodup_keys_setLastRun reflects.distinct name handle
  · rw [registry, added, recalled_cons, Event.revise, own, Registry.get?_setLastRun,
      reflects.records]
    by_cases same : name = other
    · rw [if_pos same, if_pos (congrArg some same)]
    · rw [if_neg same, if_neg fun equal => same (Option.some.inj equal)]

theorem play_reflects (reflects : Reflects stage) (run : RunId) (id : BindingId)
    (options : Fields Value) : Reflects (stage.play run id options).1 := by
  cases found : stage.binding? id with
  | none =>
    unfold play
    rw [found]
    exact reflects
  | some binding =>
    have added := history_play found run options
    unfold play at added ⊢
    rw [found] at added ⊢
    dsimp only at added ⊢
    cases own : binding.animation.name with
    | none => exact reflects.keep rfl (.single rfl rfl)
    | some name => exact reflects.played rfl rfl rfl

/-- What a dispatch resolved is registered under its name. -/
theorem prepare_reflects (reflects : Reflects stage) (run : RunId) (binding : Binding)
    (resolved : Fields Value) : Reflects (stage.prepare run binding resolved).1 := by
  obtain ⟨late, early, noticed, notices, added⟩ := history_prepare stage run binding resolved
  have registry := registry_prepare stage run binding resolved
  -- of all that is recorded, names are concerned by the dispatch itself only
  have recalls (name : String) : recalled name (stage.prepare run binding resolved).1.history =
      if binding.animation.name = some name then
        some ⟨binding.element, ScrollLink.otherFields resolved,
          (Fields.get? stage.registry name).bind Registry.Record.lastRun⟩
      else Fields.get? stage.registry name := by
    rw [added, recalled_append name _ fun event here =>
        Event.leavesNames_of_isNotice (noticed event here),
      recalled_cons, recalled_append name _ fun event here =>
        Event.leavesNames_of_isNotice (notices event here), reflects.records]
    rfl
  cases own : binding.animation.name with
  | none =>
    rw [own] at registry recalls
    refine ⟨registry ▸ reflects.distinct, fun name => ?_⟩
    rw [registry, recalls, if_neg nofun]
  | some name =>
    rw [own] at registry recalls
    refine ⟨?_, fun other => ?_⟩
    · rw [registry]
      exact Registry.nodup_keys_register reflects.distinct _ _ _
    · rw [registry, recalls]
      by_cases same : name = other
      · subst same
        rw [if_pos rfl]
        exact Registry.get?_register ..
      · rw [if_neg fun equal => same (Option.some.inj equal)]
        exact Registry.get?_register_of_ne _ same _ _

theorem advance_reflects (reflects : Reflects stage) {binding : Binding}
    (found : stage.binding? binding.id = some binding) (run : RunId) (reason : RunReason)
    (outcome : Except ResolveError Resolution) :
    Reflects (stage.advance run binding reason outcome).1 := by
  match outcome with
  | .ok (.ready resolved) =>
    exact dispatch_induction found run reason resolved
      (prepare_reflects reflects run binding resolved)
      (fun _ reflects => play_reflects reflects run _ _)
      fun _ _ _ reflects => reflects.keep rfl (.single rfl rfl)
  | .ok (.pending options) => exact reflects.keep rfl (Adds.refl _ stage)
  | .error error =>
    exact reflects.keep rfl ⟨[.reported _, .failed run binding.id error],
      by simp [Event.leavesNames], rfl⟩

theorem schedule_reflects (reflects : Reflects stage) (id : BindingId) (reason : RunReason) :
    Reflects (stage.schedule id reason).1 := by
  refine schedule_cases (motive := Reflects) stage id reason reflects ?_
  intro binding found _ outcome
  have started : Reflects (stage.start binding reason) := reflects.keep rfl (.single rfl rfl)
  exact advance_reflects started found _ reason outcome

theorem pollRun_reflects {state : Stage × Nat} (reflects : Reflects state.1)
    (waiting : PendingRun) : Reflects (pollRun state waiting).1 := by
  refine pollRun_cases (motive := Reflects) state waiting (reflects.keep rfl (.single rfl rfl)) ?_
  intro binding found _ outcome
  have polled : Reflects (state.1.polled waiting) := reflects.keep rfl (Adds.refl _ state.1)
  exact advance_reflects polled found _ _ outcome

theorem release_reflects (reflects : Reflects stage) (chosen : Binding → Bool) :
    Reflects (stage.release chosen) := by
  have releases := release_releases stage chosen
  exact reflects.keep releases.registry
    (releases.adds.mono fun _ => Event.leavesNames_of_isEnding)

theorem bind_reflects (reflects : Reflects stage) (label : String) (animation : Animation)
    (chain : Chain) : Reflects (stage.bind label animation chain).1 := by
  have binds := bind_binds stage label animation chain
  exact reflects.keep binds.registry (binds.adds.mono fun _ => Event.leavesNames_of_isBeginning)

theorem enter_reflects (reflects : Reflects stage) (binding : Binding) :
    Reflects (stage.enter binding) := by
  have looks := lookAt_looks stage binding
  rw [enter_eq]
  exact schedule_reflects (reflects.keep looks.registry
    (looks.adds.mono fun _ => Event.leavesNames_of_isEnding)) _ .enteredView

/-- The names of an element that is torn down stand for nothing any more. -/
theorem tornDown_reflects (reflects : Reflects stage) (element : ElementId) :
    Reflects ({ stage with registry := stage.registry.release element }.record
      (.tornDown element)) where
  distinct := Fields.nodup_keys_filter reflects.distinct _
  records := by
    intro name
    refine (Registry.get?_release reflects.distinct element name).trans ?_
    rw [reflects.records]
    rfl

theorem report_reflects (reflects : Reflects stage) (diagnostic : Diagnostic) :
    Reflects (stage.report diagnostic) :=
  reflects.keep rfl (.single rfl rfl)

/-! ## Operations -/

theorem apply_reflects (reflects : Reflects stage) (element : ElementId) (directive : Directive)
    (chain : Chain) : Reflects (stage.apply element directive chain).1 := by
  refine apply_induction (release_reflects reflects _)
    (fun _ diagnostic reflects => report_reflects reflects diagnostic) ?_
  intro before label animation _ reflects
  exact schedule_reflects (bind_reflects reflects label animation chain) _ .initial

theorem lookup_reflects (reflects : Reflects stage) (name : String) :
    Reflects (stage.lookup name).1 := by
  unfold lookup
  split
  · exact report_reflects reflects _
  · exact reflects.played rfl rfl rfl

theorem sequence_reflects (reflects : Reflects stage) (names : List String)
    (options : Fields Value) : Reflects (stage.sequence names options).1 :=
  sequence_induction reflects names options
    (fun _ diagnostic _ reflects => report_reflects reflects diagnostic)
    fun _ _ reflects => reflects.keep rfl (.single rfl rfl)

theorem perform_reflects (reflects : Reflects stage) (operation : Operation) :
    Reflects (stage.perform operation) := by
  cases operation with
  | apply element directive chain => exact apply_reflects reflects element directive chain
  | input input =>
    exact handle_induction reflects input (release_reflects reflects)
      (fun _ binding reflects => enter_reflects reflects binding)
      (fun id => schedule_reflects reflects id .sourceChanged)
      fun _ element reflects => tornDown_reflects reflects element
  | tick =>
    have begun : Reflects stage.takeUp := reflects.keep rfl (Adds.refl _ stage)
    exact tick_induction begun fun _ waiting reflects => pollRun_reflects reflects waiting
  | lookup name => exact lookup_reflects reflects name
  | sequence names options => exact sequence_reflects reflects names options
  | deliver name delivery =>
    show Reflects ((stage.deliver? name delivery).getD stage)
    cases delivered : stage.deliver? name delivery with
    | none => exact reflects
    | some later =>
      obtain ⟨loader, -, rfl⟩ := Option.map_eq_some_iff.mp delivered
      exact reflects.keep rfl (Adds.refl _ stage)
  | animate element options => exact reflects.keep rfl (.single rfl rfl)
  | followScroll link => exact reflects.keep rfl (.single rfl rfl)
  | _ => exact reflects.keep rfl (Adds.refl _ stage)

/-- **Operations leave the registry with what is recalled of every name.** -/
theorem performAll_reflects (reflects : Reflects stage) (operations : List Operation) :
    Reflects (stage.performAll operations) :=
  List.foldlRecOn operations perform reflects fun _ reflects operation _ =>
    perform_reflects reflects operation

/-- A name is registered exactly if the history says that it stands for something. -/
theorem Reflects.mem_keys_iff (reflects : Reflects stage) {name : String} :
    name ∈ Fields.keys stage.registry ↔
      ∃ element options, Stands name element options stage.history := by
  constructor
  · intro here
    obtain ⟨record, found⟩ := Option.ne_none_iff_exists'.mp fun none =>
      Fields.get?_eq_none_iff.mp none here
    rw [reflects.records] at found
    exact ⟨record.element, record.options, (recalled_eq_some_iff.mp found).1⟩
  · rintro ⟨element, options, stands⟩
    obtain ⟨record, found, -⟩ := recalled_iff_stands.mpr stands
    rw [← reflects.records] at found
    exact List.mem_map_of_mem (Fields.mem_of_get? found)

end

/-- **The registry reflects the latest dispatch of every name.**  After any operations on a new
stage:

* a name is registered exactly when a run was dispatched under it, and the element that was
  dispatched last has not been torn down since;
* it has a record exactly if this gives the element and the options of the last dispatch under
  it, and the handle of the last play under it, by a run or by name, since it was last
  registered anew, or none without such a play;
* what was dispatched or played under it was so for animations that were bound with this name
  and to this element. -/
theorem registry_reflects_dispatches (settings : Settings) (data : Store) (source : HelperSupply)
    (operations : List Operation) :
    let stage := (new settings data source).performAll operations
    (∀ name, name ∈ Fields.keys stage.registry ↔
      ∃ element options, Stands name element options stage.history) ∧
    (∀ name record, Fields.get? stage.registry name = some record ↔
      Stands name record.element record.options stage.history ∧
        PlayedLast name record.lastRun stage.history) ∧
    Attributed stage := by
  intro stage
  have reflects : Reflects stage :=
    performAll_reflects (new_reflects settings data source) operations
  refine ⟨fun name => reflects.mem_keys_iff, fun name record => ?_, ?_⟩
  · rw [reflects.records]
    exact recalled_eq_some_iff
  · exact performAll_attributed (new_sound settings data source)
      (new_enrolled settings data source) (new_attributed settings data source) operations

/-- A name that is taken over by an animation that waits for the view keeps the play of its first
element, and outlives that. -/
example :
    let stage := (new .standard [] (Helper.builtinSource 0)).performAll
      [.apply ⟨1⟩ ⟨none, [], "spin: {x: 1}"⟩ [], .lookup "spin",
        .apply ⟨2⟩ ⟨some "spin", ["in-view"], "{x: 2}"⟩ [], .input (.teardown ⟨1⟩)]
    (Fields.get? stage.registry "spin").map (fun record => (record.element, record.lastRun)) =
      some (⟨2⟩, some ⟨1⟩) := by
  decide +kernel

end Stage

end Choreography
