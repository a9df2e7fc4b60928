import Choreography.Page.Format
import Choreography.Proofs.Page.Actions
import Choreography.Proofs.Stage.Chains
import Choreography.Proofs.Stage.Listeners

/-!
# Who a write runs again

Each element of a page has a frame of its own, and the chain of its bindings is that frame and
then the frame of the page (`Acts.seated`).  So the frame that was just written is the one that
answers for a binding exactly if the write went to its element, or went to the page and its
element has no field of that name (`seesWrite_iff`); and **a write runs again those bindings
that watch the field and read it from where it was written, each of them once**
(`set_runs_readers`).
-/

namespace Choreography

/-! ## Frames -/

namespace Store

variable (store : Store)

/-- The frame of a chain that answers a name: the nearest one that has it. -/
def answering? (chain : Chain) (name : String) : Option FrameId :=
  chain.find? fun frame => Fields.has (store.frame frame) name

/-- A scope gives a name the value that it has in this frame. -/
theorem get?_scope (chain : Chain) (name : String) :
    (store.scope chain).get? name =
      (store.answering? chain name).bind fun frame => Fields.get? (store.frame frame) name := by
  induction chain with
  | nil => rfl
  | cons frame rest ih =>
    rw [answering?, List.find?_cons, Fields.has, scope, List.map_cons, Scope.get?,
      List.findSome?_cons]
    cases found : Fields.get? (store.frame frame) name with
    | none => exact ih
    | some value => exact found.symm

theorem length_set (frame : FrameId) (name : String) (value : Value) :
    (store.set frame name value).length = store.length :=
  List.length_modify ..

/-- What was written to a frame is there. -/
theorem has_frame_set {store : Store} {frame : FrameId} (inside : frame < store.length)
    (name : String) (value : Value) :
    Fields.has ((store.set frame name value).frame frame) name = true := by
  rw [Store.frame, set, List.getElem?_modify_eq, List.getElem?_eq_getElem inside]
  show (Fields.get? (Fields.put store[frame] name value) name).isSome = true
  rw [Fields.get?_put, if_pos rfl]
  rfl

end Store

namespace Page

section

variable {page : Page}

theorem frameOf?_eq_some_iff {id : ElementId} {frame : FrameId} :
    page.frameOf? id = some frame ↔
      ∃ position, page.elements.findIdx? (fun element => element.id = id) = some position ∧
        position + 1 = frame :=
  Option.map_eq_some_iff

theorem exists_frameOf? {id : ElementId} (here : id ∈ page.ids) :
    ∃ frame, page.frameOf? id = some frame := by
  obtain ⟨element, among, rfl⟩ := List.mem_map.mp here
  have found : (page.elements.findIdx? fun other => other.id = element.id).isSome = true := by
    rw [List.findIdx?_isSome, List.any_eq_true]
    exact ⟨element, among, decide_eq_true rfl⟩
  obtain ⟨position, isFirst⟩ := Option.isSome_iff_exists.mp found
  exact ⟨position + 1, frameOf?_eq_some_iff.mpr ⟨position, isFirst, rfl⟩⟩

/-- The frame of an element is the one that its data were put in. -/
theorem exists_of_frameOf? {id : ElementId} {frame : FrameId}
    (own : page.frameOf? id = some frame) : ∃ position, frame = position + 1 ∧
      ∃ element, page.elements[position]? = some element ∧ element.id = id := by
  obtain ⟨position, isFirst, rfl⟩ := frameOf?_eq_some_iff.mp own
  obtain ⟨inside, same, -⟩ := List.findIdx?_eq_some_iff_getElem.mp isFirst
  exact ⟨position, rfl, page.elements[position], List.getElem?_eq_getElem inside,
    of_decide_eq_true same⟩

theorem frameOf?_ne_pageFrame {id : ElementId} {frame : FrameId}
    (own : page.frameOf? id = some frame) : frame ≠ pageFrame := by
  obtain ⟨position, rfl, -⟩ := exists_of_frameOf? own
  exact Nat.succ_ne_zero position

/-- A frame belongs to one element. -/
theorem frameOf?_injective {first second : ElementId} {frame : FrameId}
    (own : page.frameOf? first = some frame) (also : page.frameOf? second = some frame) :
    first = second := by
  obtain ⟨position, rfl, element, here, rfl⟩ := exists_of_frameOf? own
  obtain ⟨other, same, present, there, rfl⟩ := exists_of_frameOf? also
  obtain rfl := Nat.succ.inj same
  rw [here, Option.some.injEq] at there
  rw [there]

/-! ## Where bindings look -/

/-- A stage on which every binding belongs to an element of the page and sees its frames, all
of which there are. -/
structure Seated (page : Page) (stage : Stage) : Prop where
  chains : ∀ binding ∈ stage.bindings,
    binding.element ∈ page.ids ∧ binding.chain = page.chainOf binding.element
  frames : stage.data.length = page.elements.length + 1

theorem stage_seated (page : Page) (settings : Settings) (latency : Nat) :
    Seated page (page.stage settings latency) where
  chains := nofun
  frames := by
    show (Value.ofJsonMembers page.data :: page.elements.map _).length = _
    rw [List.length_cons, List.length_map]

theorem Seated.of_stays {before after : Stage} (stays : Stage.Stays before after)
    (seated : Seated page before) : Seated page after where
  chains := by
    intro binding here
    obtain ⟨old, there, element, chain⟩ := stays.origin binding here
    rw [← element, ← chain]
    exact seated.chains old there
  frames := stays.data ▸ seated.frames

theorem perform_seated {stage : Stage} (seated : Seated page stage) {operation : Operation}
    (action : page.isAction operation = true) : Seated page (stage.perform operation) := by
  cases operation with
  | apply element directive chain =>
    obtain ⟨among, rfl⟩ := of_decide_eq_true action
    obtain ⟨data, chains⟩ := stage.apply_chains element directive (page.chainOf element)
    have same : (stage.perform (.apply element directive (page.chainOf element))).data =
      stage.data := data
    refine ⟨fun binding here => ?_, same ▸ seated.frames⟩
    rcases chains binding here with ⟨rfl, chain⟩ | ⟨old, there, element, chain⟩
    · exact ⟨among, chain⟩
    · rw [← element, ← chain]
      exact seated.chains old there
  | input input => exact seated.of_stays (stage.handle_stays input)
  | tick => exact seated.of_stays stage.tick_stays
  | lookup name => exact seated.of_stays (stage.lookup_stays name)
  | sequence names options => exact seated.of_stays (stage.sequence_stays names options)
  | write frame name value =>
    exact ⟨seated.chains, (stage.data.length_set frame name value).trans seated.frames⟩
  | _ => cases action

theorem Acts.seated {before after : Stage} (acts : page.Acts before after)
    (seated : Seated page before) : Seated page after := by
  obtain ⟨operations, actions, rfl⟩ := acts
  exact List.foldlRecOn operations Stage.perform seated fun _ seated operation here =>
    perform_seated seated (actions operation here)

/-! ## Who sees a write -/

/-- The frame that a write goes to: that of its element, or that of the page. -/
def targetOf? (page : Page) : Option ElementId → Option FrameId
  | none => some pageFrame
  | some id => page.frameOf? id

theorem targetOf?_lt {written : Option ElementId} {frame : FrameId}
    (target : page.targetOf? written = some frame) : frame < page.elements.length + 1 := by
  cases written with
  | none =>
    obtain rfl := Option.some.inj target
    exact Nat.succ_pos _
  | some element =>
    obtain ⟨position, rfl, item, here, -⟩ := exists_of_frameOf? target
    exact Nat.succ_lt_succ (List.getElem?_eq_some_iff.mp here).1

/-- An element of the page is told of a write exactly if it reads the field from the frame that
was written. -/
theorem seesWrite_iff {stage : Stage} {written : Option ElementId} {frame : FrameId}
    {field : String} (target : page.targetOf? written = some frame)
    (there : Fields.has (stage.data.frame frame) field = true) {owner : ElementId}
    (here : owner ∈ page.ids) {subscription : SubscriptionId}
    (owns : stage.subscriptionElement? subscription = some owner) :
    page.seesWrite stage written field subscription = true ↔
      stage.data.answering? (page.chainOf owner) field = some frame := by
  obtain ⟨own, found⟩ := exists_frameOf? here
  have chain : page.chainOf owner = [own, pageFrame] := by
    rw [chainOf, found]
    rfl
  unfold seesWrite
  rw [owns, chain, Store.answering?, List.find?_cons, List.find?_cons, List.find?_nil]
  cases written with
  | none =>
    -- a field of the page is seen unless the element has one of the same name
    obtain rfl : pageFrame = frame := Option.some.inj target
    have different := frameOf?_ne_pageFrame found
    dsimp only [hides]
    rw [found, there]
    cases hidden : Fields.has (stage.data.frame own) field <;> simp [hidden, different]
  | some element =>
    -- a field of an element is seen by that element only
    have own_eq : owner = element ↔ own = frame := by
      constructor
      · rintro rfl
        exact Option.some.inj (found.symm.trans target)
      · rintro rfl
        exact frameOf?_injective found target
    have different := frameOf?_ne_pageFrame target
    by_cases same : owner = element
    · obtain rfl := own_eq.mp same
      simp [same, there]
    · have elsewhere := mt own_eq.mpr same
      cases Fields.has (stage.data.frame own) field <;>
        cases Fields.has (stage.data.frame pageFrame) field <;>
          simp [same, elsewhere, different.symm]

/-- A write to a frame, and everyone who is told of it. -/
theorem set_eq {stage : Stage} {written : Option ElementId} {frame : FrameId}
    (target : page.targetOf? written = some frame) (field : String) (value : Json) :
    page.set stage written field value =
      let wrote := stage.write frame field (Value.ofJson value)
      ((wrote.listenersOf field).filter (page.seesWrite wrote written field)).foldl
        (fun stage subscription => stage.handle (.sourceChanged subscription)) wrote := by
  have goal : (written.bind page.frameOf?).getD pageFrame = frame := by
    cases written with
    | none => exact Option.some.inj target
    | some element =>
      have own : page.frameOf? element = some frame := target
      rw [Option.bind_some, own, Option.getD_some]
  rw [set, goal]

/-- The stages of a replay, as far as telling subscriptions is concerned. -/
structure Settled (page : Page) (stage : Stage) : Prop where
  sound : Stage.Sound stage []
  subscribed : Stage.Subscribed stage
  once : Stage.OncePerRoot stage
  seated : Seated page stage

theorem Acts.settled {settings : Settings} {latency : Nat} {after : Stage}
    (acts : page.Acts (page.stage settings latency) after) : Settled page after := by
  have seated := acts.seated (page.stage_seated settings latency)
  obtain ⟨operations, -, rfl⟩ := acts
  have sound := Stage.new_sound settings page.store (Helper.builtinSource latency)
  have subscribed := Stage.new_subscribed settings page.store (Helper.builtinSource latency)
  exact ⟨Stage.performAll_sound sound operations,
    Stage.performAll_subscribed sound subscribed operations,
    Stage.performAll_oncePerRoot sound subscribed nofun operations, seated⟩

/-- A write runs again the bindings that watch the field and read it from the frame that was
written. -/
theorem set_runs {stage : Stage} {written : Option ElementId} {frame : FrameId}
    (target : page.targetOf? written = some frame) (field : String) (value : Json)
    (settled : Settled page (stage.write frame field (Value.ofJson value)))
    (inside : frame < stage.data.length) :
    let later := page.set stage written field value
    later.data = stage.data.set frame field (Value.ofJson value) ∧
    ∃ ids : List BindingId, ids.Nodup ∧
      gather Event.scheduled? later.history = gather Event.scheduled? stage.history ++
        numbered stage.runCount (ids.map fun id => (id, .sourceChanged)) ∧
      ∀ id, id ∈ ids ↔ ∃ binding ∈ stage.bindings, binding.id = id ∧
        stage.Watches binding field ∧
          later.data.answering? binding.chain field = some frame := by
  intro later
  let wrote := stage.write frame field (Value.ofJson value)
  let told := (wrote.listenersOf field).filter (page.seesWrite wrote written field)
  have same : later = told.foldl
      (fun stage subscription => stage.handle (.sourceChanged subscription)) wrote :=
    set_eq target field value
  have data : later.data = wrote.data := by
    rw [same]
    refine (List.foldlRecOn (motive := fun after => Stage.Stays wrote after) told _ (.refl wrote)
      fun _ early subscription _ => ?_).data
    exact early.trans (Stage.handle_stays _ (.sourceChanged subscription))
  obtain ⟨ids, different, accounts, members⟩ := Stage.foldl_sourceChanged_runs
    settled.sound.distinct settled.subscribed settled.once
    (List.filter_sublist : told.Sublist (wrote.listenersOf field))
  refine ⟨data, ids, different, ?_, fun id => ?_⟩
  · rw [same]
    exact accounts.scheduled
  · have there : Fields.has (wrote.data.frame frame) field = true :=
      Store.has_frame_set inside field _
    rw [members, data]
    -- a binding is told through a subscription of its own, if it reads what was written
    have reads {binding : Binding} (here : binding ∈ stage.bindings)
        {subscription : SubscriptionId} (holds : subscription ∈ binding.subscriptions) :
        page.seesWrite wrote written field subscription = true ↔
          wrote.data.answering? binding.chain field = some frame := by
      obtain ⟨among, chain⟩ := settled.seated.chains binding here
      rw [chain]
      exact seesWrite_iff target there among
        (Stage.subscriptionElement?_of_holds settled.sound.distinct settled.subscribed here holds)
    constructor
    · rintro ⟨subscription, told, binding, here, own, holds⟩
      obtain ⟨listens, sees⟩ := List.mem_filter.mp told
      exact ⟨binding, here, own, ⟨subscription, holds, Stage.mem_listenersOf.mp listens⟩,
        (reads here holds).mp sees⟩
    · rintro ⟨binding, here, own, ⟨subscription, holds, listens⟩, answers⟩
      exact ⟨subscription, List.mem_filter.mpr ⟨Stage.mem_listenersOf.mpr listens,
        (reads here holds).mpr answers⟩, binding, here, own, holds⟩

end

/-- **A write runs again exactly those that read what was written.**  Let a page be accepted,
and let some steps of its script have been made and a write be the next one.

* A write that names an element goes to the frame of that element, which is not that of the
  page and belongs to no other element; any other write goes to the frame of the page.
* Every binding looks into the frame of its element and then into that of the page.
* The runs that are scheduled are due to the change of data, and they are runs of those
  bindings in force for which the field is watched and whose chain answers it from the frame
  that was written, of each of them one. -/
theorem set_runs_readers {text : String} {page : Page} (accepted : Page.read text = .ok page)
    (settings : Settings) (latency : Nat) {before after : List ScriptStep}
    {written : Option ElementId} {field : String} {value : Json}
    (script : page.script = before ++ .set written field value :: after) :
    let stage := page.play (page.mount (page.stage settings latency)) before
    let later := page.step stage (.set written field value)
    ∃ frame,
      (written = none → frame = pageFrame) ∧
      (∀ element ∈ written, page.frameOf? element = some frame ∧ frame ≠ pageFrame ∧
        ∀ other, page.frameOf? other = some frame → other = element) ∧
      later.data = stage.data.set frame field (Value.ofJson value) ∧
      (∀ binding ∈ stage.bindings, ∃ own, page.frameOf? binding.element = some own ∧
        binding.chain = [own, pageFrame]) ∧
      ∃ ids : List BindingId, ids.Nodup ∧
        gather Event.scheduled? later.history = gather Event.scheduled? stage.history ++
          numbered stage.runCount (ids.map fun id => (id, .sourceChanged)) ∧
        ∀ id, id ∈ ids ↔ ∃ binding ∈ stage.bindings, binding.id = id ∧
          stage.Watches binding field ∧
            later.data.answering? binding.chain field = some frame := by
  intro stage later
  have known := (fault?_eq_none_iff.mp (fault?_of_read accepted)).2
    (.set written field value) (script ▸ by simp)
  have target : ∃ frame, page.targetOf? written = some frame := by
    cases written with
    | none => exact ⟨pageFrame, rfl⟩
    | some element => exact exists_frameOf? (known element rfl)
  obtain ⟨frame, target⟩ := target
  have acts := page.play_mount_acts settings latency before
  have wrote : page.Acts (page.stage settings latency)
      (stage.write frame field (Value.ofJson value)) :=
    acts.trans ⟨[.write frame field (Value.ofJson value)], by simp [isAction], rfl⟩
  have seated := acts.settled.seated
  have inside : frame < stage.data.length := seated.frames ▸ targetOf?_lt target
  obtain ⟨data, runs⟩ := set_runs target field value wrote.settled inside
  refine ⟨frame, ?_, ?_, data, ?_, runs⟩
  · rintro rfl
    exact (Option.some.inj target).symm
  · rintro element rfl
    have own : page.frameOf? element = some frame := target
    exact ⟨own, frameOf?_ne_pageFrame own, fun other also => frameOf?_injective also own⟩
  · intro binding here
    obtain ⟨among, chain⟩ := seated.chains binding here
    obtain ⟨own, found⟩ := exists_frameOf? among
    refine ⟨own, found, chain.trans ?_⟩
    rw [chainOf, found]
    rfl

namespace HiddenField

/-- Two elements read a field of the page, the first one twice, and the second one has a field
of the same name.  The records are written as arrays. -/
def text : String :=
  "[\x7b\"k\":1\x7d," ++
    "[[1,[[\"x-motion\",\"\x7bx:k.a,y:k.b\x7d\"]],\x7b\x7d]," ++
    "[2,[[\"x-motion\",\"\x7bx:k\x7d\"]],\x7b\"k\":2\x7d]]," ++
    "[\x7b\"set\":[null,\"k\",3]\x7d]]"

/-- The page of this text. -/
def page : Page :=
  ⟨[("k", .integer 1)],
    [⟨⟨1⟩, [⟨"x-motion", "\x7bx:k.a,y:k.b\x7d"⟩], []⟩,
      ⟨⟨2⟩, [⟨"x-motion", "\x7bx:k\x7d"⟩], [("k", .integer 2)]⟩],
    [.set none "k" (.integer 3)]⟩

/-- Whether this page is what came of reading a text. -/
def readsPage : Except PageError Page → Bool
  | .ok ⟨[("k", .integer 1)],
      [⟨⟨1⟩, [⟨"x-motion", "\x7bx:k.a,y:k.b\x7d"⟩], []⟩,
        ⟨⟨2⟩, [⟨"x-motion", "\x7bx:k\x7d"⟩], [("k", .integer 2)]⟩],
      [.set none "k" (.integer 3)]⟩ => true
  | _ => false

theorem eq_of_readsPage {result : Except PageError Page} (same : readsPage result = true) :
    result = .ok page := by
  unfold readsPage at same
  split at same
  · rfl
  · cases same

end HiddenField

open HiddenField in
/-- A write to the page is seen by the first element only, and runs its binding once. -/
theorem set_runs_readers_of_hidden_field :
    Page.read text = .ok page ∧
    let stage := page.play (page.mount (page.stage .standard 1)) []
    let later := page.step stage (.set none "k" (.integer 3))
    later.data = stage.data.set pageFrame "k" (Value.ofJson (.integer 3)) ∧
      ∃ ids : List BindingId, ids.Nodup ∧
        gather Event.scheduled? later.history = gather Event.scheduled? stage.history ++
          numbered stage.runCount (ids.map fun id => (id, .sourceChanged)) ∧
        ⟨1⟩ ∈ ids ∧ ⟨2⟩ ∉ ids := by
  have accepted : Page.read text = .ok page := eq_of_readsPage (by decide +kernel)
  have script : page.script = [] ++ .set none "k" (.integer 3) :: [] := rfl
  obtain ⟨frame, isPage, -, data, -, ids, different, scheduled, members⟩ :=
    set_runs_readers accepted .standard 1 script
  obtain rfl := isPage rfl
  rw [data] at members
  refine ⟨accepted, data, ids, different, scheduled, (members ⟨1⟩).mpr ?_,
    mt (members ⟨2⟩).mp ?_⟩
  · decide +kernel
  · decide +kernel

end Page

end Choreography
