import Mathlib.Data.List.Forall2
import Choreography.Proofs.Expression.Reports
import Choreography.Proofs.Stage.Step

/-!
# Accounts

What each part of an operation adds to the history, apart from the steps of runs
(`Accounts`): the animations that are bound and the runs that are scheduled, each under the
next number, and one error for each run that fails and for nothing else.

Accounts of one part after the other are put together (`Accounts.trans`), so those of an
operation follow from those of its parts (`apply_accounts`, `foldl_enter_accounts`).
-/

namespace Choreography

/-! ## Reading all of a history -/

/-- What is read off a history, the oldest first. -/
def gather {α : Type} (read : Event → Option α) (history : List Event) : List α :=
  history.reverse.filterMap read

section

variable {α : Type} {read : Event → Option α} {events history : List Event}

theorem gather_append :
    gather read (events ++ history) = gather read history ++ gather read events := by
  rw [gather, List.reverse_append, List.filterMap_append]
  rfl

/-- Reading a history that has grown by events none of which counts. -/
theorem gather_append_of_silent (silent : ∀ event ∈ events, read event = none) :
    gather read (events ++ history) = gather read history :=
  filterMap_reverse_append silent

theorem gather_cons (event : Event) :
    gather read (event :: history) = gather read history ++ (read event).toList := by
  rw [gather, List.reverse_cons, List.filterMap_append, filterMap_singleton]
  rfl

theorem gather_eq_nil (silent : ∀ event ∈ events, read event = none) : gather read events = [] :=
  List.filterMap_eq_nil_iff.mpr fun event here => silent event (List.mem_reverse.mp here)

theorem mem_gather {found : α} :
    found ∈ gather read history ↔ ∃ event ∈ history, read event = some found := by
  simp [gather]

end

namespace Event

/-- The animation that an event binds, with the number of the binding and the label. -/
def bound? : Event → Option (Nat × String × Animation)
  | .bound binding label animation => some (binding.number, label, animation)
  | _ => none

/-- The run that an event schedules, with its binding and its reason. -/
def scheduled? : Event → Option (Nat × BindingId × RunReason)
  | .scheduled run binding reason => some (run, binding, reason)
  | _ => none

/-- The run that ends with an error in an event, with its binding and the error. -/
def failed? : Event → Option (RunId × BindingId × ResolveError)
  | .failed run binding error => some (run, binding, error)
  | _ => none

/-- The diagnostic that an event reports. -/
def reported? : Event → Option Diagnostic
  | .reported diagnostic => some diagnostic
  | _ => none

/-- Whether an event binds no animation, schedules no run, and neither is nor reports a
failure. -/
def isUncounted : Event → Bool
  | .bound .. => false
  | .scheduled .. => false
  | .failed .. => false
  | .reported .. => false
  | _ => true

theorem bound?_of_isUncounted {event : Event} (uncounted : event.isUncounted = true) :
    event.bound? = none := by
  cases event <;> first | rfl | cases uncounted

theorem scheduled?_of_isUncounted {event : Event} (uncounted : event.isUncounted = true) :
    event.scheduled? = none := by
  cases event <;> first | rfl | cases uncounted

theorem failed?_of_isUncounted {event : Event} (uncounted : event.isUncounted = true) :
    event.failed? = none := by
  cases event <;> first | rfl | cases uncounted

theorem reported?_of_isUncounted {event : Event} (uncounted : event.isUncounted = true) :
    event.reported? = none := by
  cases event <;> first | rfl | cases uncounted

theorem isUncounted_of_isEnding {event : Event} (ending : event.isEnding = true) :
    event.isUncounted = true := by
  cases event <;> first | rfl | cases ending

theorem isUncounted_of_isNotice {event : Event} (notice : event.isNotice = true) :
    event.isUncounted = true := by
  cases event <;> first | rfl | cases notice

theorem isUncounted_of_isPlayOf {run : RunId} {id : BindingId} {element? : Option ElementId}
    {event : Event} (play : event.isPlayOf run id element? = true) : event.isUncounted = true := by
  cases event <;> first | rfl | cases play

end Event

/-- Things with the numbers after a count. -/
def numbered {α : Type} (count : Nat) (things : List α) : List (Nat × α) :=
  (things.zipIdx (count + 1)).map Prod.swap

theorem numbered_append {α : Type} (count : Nat) (first second : List α) :
    numbered count (first ++ second) =
      numbered count first ++ numbered (count + first.length) second := by
  rw [numbered, List.zipIdx_append, List.map_append, Nat.add_right_comm]
  rfl

/-- The numbers are the next ones. -/
theorem map_fst_numbered {α : Type} (count : Nat) (things : List α) :
    (numbered count things).map Prod.fst = List.range' (count + 1) things.length := by
  rw [numbered, List.map_map]
  exact List.zipIdx_map_snd (count + 1) things

namespace Stage

variable {before after : Stage}

/-- A diagnostic that is the error of a failed run. -/
def Tells (failed : RunId × BindingId × ResolveError) (diagnostic : Diagnostic) : Prop :=
  ∃ label, diagnostic = failure label failed.2.2

/-- What is reported from one stage to a later one, and which runs fail: each failed run is
reported as an error, in turn, and nothing else is reported as one. -/
structure Reports (reports : List Diagnostic)
    (failures : List (RunId × BindingId × ResolveError)) (before after : Stage) : Prop where
  diagnostics : after.diagnostics = before.diagnostics ++ reports
  reported : gather Event.reported? after.history =
    gather Event.reported? before.history ++ reports
  failed : gather Event.failed? after.history = gather Event.failed? before.history ++ failures
  told : List.Forall₂ Tells failures
    (reports.filter fun diagnostic => diagnostic.level = .error)

theorem Reports.trans {first second third : Stage} {reports more : List Diagnostic}
    {failures others : List (RunId × BindingId × ResolveError)}
    (early : Reports reports failures first second) (late : Reports more others second third) :
    Reports (reports ++ more) (failures ++ others) first third where
  diagnostics := by rw [late.diagnostics, early.diagnostics, List.append_assoc]
  reported := by rw [late.reported, early.reported, List.append_assoc]
  failed := by rw [late.failed, early.failed, List.append_assoc]
  told := by
    rw [List.filter_append]
    exact List.rel_append early.told late.told

/-- The accounts from one stage to a later one: which animations are bound, which runs are
scheduled, and that each failure is reported. -/
structure Accounts (arrived : List (String × Animation)) (asked : List (BindingId × RunReason))
    (before after : Stage) : Prop where
  bindingCount : after.bindingCount = before.bindingCount + arrived.length
  bound : gather Event.bound? after.history =
    gather Event.bound? before.history ++ numbered before.bindingCount arrived
  runCount : after.runCount = before.runCount + asked.length
  scheduled : gather Event.scheduled? after.history =
    gather Event.scheduled? before.history ++ numbered before.runCount asked
  reports : ∃ reports failures, Reports reports failures before after

theorem Accounts.trans {first second third : Stage} {arrived others : List (String × Animation)}
    {asked more : List (BindingId × RunReason)} (early : Accounts arrived asked first second)
    (late : Accounts others more second third) :
    Accounts (arrived ++ others) (asked ++ more) first third where
  bindingCount := by
    rw [late.bindingCount, early.bindingCount, List.length_append, Nat.add_assoc]
  bound := by
    rw [late.bound, early.bound, early.bindingCount, numbered_append, List.append_assoc]
  runCount := by rw [late.runCount, early.runCount, List.length_append, Nat.add_assoc]
  scheduled := by
    rw [late.scheduled, early.scheduled, early.runCount, numbered_append, List.append_assoc]
  reports := by
    obtain ⟨reports, failures, first⟩ := early.reports
    obtain ⟨more, others, second⟩ := late.reports
    exact ⟨reports ++ more, failures ++ others, first.trans second⟩

/-! ## What does not count -/

section

variable (adds : Adds Event.isUncounted before after)

include adds

theorem gather_of_adds {α : Type} {read : Event → Option α}
    (silent : ∀ event, Event.isUncounted event = true → read event = none) :
    gather read after.history = gather read before.history := by
  obtain ⟨events, kinds, added⟩ := adds
  rw [added, gather_append_of_silent fun event here => silent event (kinds event here)]

theorem Reports.of_uncounted (diagnostics : after.diagnostics = before.diagnostics) :
    Reports [] [] before after where
  diagnostics := by rw [diagnostics, List.append_nil]
  reported := by
    rw [gather_of_adds adds fun _ => Event.reported?_of_isUncounted, List.append_nil]
  failed := by rw [gather_of_adds adds fun _ => Event.failed?_of_isUncounted, List.append_nil]
  told := .nil

theorem Accounts.of_uncounted (bindingCount : after.bindingCount = before.bindingCount)
    (runCount : after.runCount = before.runCount)
    (diagnostics : after.diagnostics = before.diagnostics) : Accounts [] [] before after where
  bindingCount := bindingCount
  bound := (gather_of_adds adds fun _ => Event.bound?_of_isUncounted).trans
    (List.append_nil _).symm
  runCount := runCount
  scheduled := (gather_of_adds adds fun _ => Event.scheduled?_of_isUncounted).trans
    (List.append_nil _).symm
  reports := ⟨[], [], .of_uncounted adds diagnostics⟩

end

theorem Accounts.refl (stage : Stage) : Accounts [] [] stage stage :=
  .of_uncounted (Adds.refl _ stage) rfl rfl rfl

/-! ## What is reported -/

theorem report_reports (stage : Stage) {diagnostic : Diagnostic}
    (mild : diagnostic.level ≠ .error) :
    Reports [diagnostic] [] stage (stage.report diagnostic) where
  diagnostics := rfl
  reported := gather_cons _
  failed := (gather_cons _).trans rfl
  told := by
    rw [List.filter_cons_of_neg (by simpa using mild)]
    exact .nil

/-- Diagnostics that are no errors belong to no run. -/
theorem reportAll_accounts (diagnostics : List Diagnostic)
    (mild : ∀ diagnostic ∈ diagnostics, diagnostic.level ≠ .error) (stage : Stage) :
    Accounts [] [] stage (stage.reportAll diagnostics) := by
  induction diagnostics generalizing stage with
  | nil => exact .refl stage
  | cons diagnostic rest ih =>
    have first : Accounts [] [] stage (stage.report diagnostic) :=
      ⟨rfl, (gather_cons _).trans rfl, rfl, (gather_cons _).trans rfl,
        [diagnostic], [], report_reports stage (mild diagnostic List.mem_cons_self)⟩
    exact first.trans (ih (fun other here => mild other (List.mem_cons_of_mem _ here)) _)

theorem fail_reports (stage : Stage) (run : RunId) (id : BindingId) (label : String)
    (error : ResolveError) :
    Reports [failure label error] [(run, id, error)] stage
      (stage.fail run id label error) where
  diagnostics := rfl
  reported := by
    show gather _ (.reported _ :: .failed _ _ _ :: stage.history) = _
    rw [gather_cons, gather_cons]
    exact congrArg (· ++ _) (List.append_nil _)
  failed := by
    show gather _ (.reported _ :: .failed _ _ _ :: stage.history) = _
    rw [gather_cons, gather_cons]
    exact List.append_nil _
  told := .cons ⟨label, rfl⟩ .nil

/-! ## Runs that go on -/

/-- What a dispatch adds is of a kind, if notices, plays and the dispatch itself are. -/
theorem Dispatches.adds {run : RunId} {binding : Binding} {resolved : Fields Value}
    {kind : Event → Bool} (dispatches : Dispatches run binding resolved before after)
    (notices : ∀ event, event.isNotice = true → kind event = true)
    (plays : ∀ event, event.isPlayOf run binding.id (some binding.element) = true →
      kind event = true)
    (own : kind (.dispatched run binding.id binding.animation.name binding.element resolved) =
      true) : Adds kind before after := by
  obtain ⟨late, early, lateKinds, earlyKinds, added⟩ := dispatches.history
  refine ⟨late ++ .dispatched run binding.id binding.animation.name binding.element resolved ::
    early, ?_, added.trans (by rw [List.append_assoc, List.cons_append])⟩
  intro event here
  rcases List.mem_append.mp here with here | here
  · rcases lateKinds event here with notice | play
    · exact notices event notice
    · exact plays event play
  · rcases List.mem_cons.mp here with rfl | here
    · exact own
    · exact notices event (earlyKinds event here)

/-- A run that goes on schedules none, and reports at most its own failure. -/
theorem advance_accounts {stage : Stage} {binding : Binding}
    (found : stage.binding? binding.id = some binding) (run : RunId) (reason : RunReason)
    (outcome : Except ResolveError Resolution) :
    Accounts [] [] stage (stage.advance run binding reason outcome).1 := by
  match outcome with
  | .ok (.ready resolved) =>
    have dispatches := dispatch_dispatches found run reason resolved
    exact .of_uncounted (dispatches.adds (fun _ => Event.isUncounted_of_isNotice)
      (fun _ => Event.isUncounted_of_isPlayOf) rfl) dispatches.keeps.bindingCount
      dispatches.keeps.runCount dispatches.keeps.diagnostics
  | .ok (.pending options) => exact .of_uncounted (Adds.refl _ stage) rfl rfl rfl
  | .error error =>
    have reports := fail_reports stage run binding.id binding.animation.label error
    refine ⟨rfl, ?_, rfl, ?_, _, _, reports⟩
    · show gather _ (.reported _ :: .failed _ _ _ :: stage.history) = _
      rw [gather_cons, gather_cons]
      exact congrArg (· ++ _) (List.append_nil _)
    · show gather _ (.reported _ :: .failed _ _ _ :: stage.history) = _
      rw [gather_cons, gather_cons]
      exact congrArg (· ++ _) (List.append_nil _)

/-- A run of a binding in force is scheduled with the next number. -/
theorem schedule_accounts {stage : Stage} {id : BindingId} {binding : Binding}
    (found : stage.binding? id = some binding) (reason : RunReason) :
    Accounts [] [(id, reason)] stage (stage.schedule id reason).1 := by
  obtain ⟨-, rfl⟩ := mem_bindings_of_binding? found
  have started : Accounts [] [(binding.id, reason)] stage (stage.start binding reason) :=
    ⟨rfl, (gather_cons _).trans rfl, rfl, gather_cons _, [], [], (List.append_nil _).symm,
      (gather_cons _).trans rfl, (gather_cons _).trans rfl, .nil⟩
  have still : (stage.start binding reason).binding? binding.id = some binding := found
  rw [schedule_eq found]
  exact started.trans (advance_accounts still _ reason _)

theorem pollRun_accounts (state : Stage × Nat) (waiting : PendingRun) :
    Accounts [] [] state.1 (pollRun state waiting).1 := by
  refine pollRun_cases (motive := Accounts [] [] state.1) state waiting
    (.of_uncounted (.single rfl rfl) rfl rfl rfl) ?_
  intro binding found _ outcome
  have polled : Accounts [] [] state.1 (state.1.polled waiting) :=
    .of_uncounted (Adds.refl _ state.1) rfl rfl rfl
  exact polled.trans (advance_accounts found _ _ outcome)

theorem foldl_pollRun_accounts (queue : List PendingRun) (state : Stage × Nat) :
    Accounts [] [] state.1 (queue.foldl pollRun state).1 := by
  induction queue generalizing state with
  | nil => exact .refl state.1
  | cons waiting rest ih => exact (pollRun_accounts state waiting).trans (ih _)

/-! ## Bindings that end and begin -/

theorem release_accounts (stage : Stage) (chosen : Binding → Bool) :
    Accounts [] [] stage (stage.release chosen) := by
  have releases := release_releases stage chosen
  exact .of_uncounted (releases.adds.mono fun _ => Event.isUncounted_of_isEnding)
    releases.bindingCount releases.runCount releases.diagnostics

theorem gather_welcome {α : Type} {read : Event → Option α}
    (silent : ∀ event, Event.isUncounted event = true → read event = none) (id : BindingId)
    (label : String) (animation : Animation) (fresh : List (SubscriptionId × String)) :
    gather read (welcome id label animation fresh) =
      (read (.bound id label animation)).toList := by
  have late : gather read
      ((if animation.triggers.visible then [.observed id animation.element] else []) ++
        (fresh.map fun entry => Event.subscribed id entry.2 entry.1).reverse) = [] := by
    refine gather_eq_nil fun event here => silent event ?_
    rcases List.mem_append.mp here with here | here
    · split at here
      · rw [List.mem_singleton.mp here]
        rfl
      · cases here
    · obtain ⟨entry, -, rfl⟩ := List.mem_map.mp (List.mem_reverse.mp here)
      rfl
  rw [welcome, ← List.append_assoc, gather_append, late, List.append_nil]
  exact gather_cons _

/-- An animation is bound with the next number. -/
theorem bind_accounts (stage : Stage) (label : String) (animation : Animation) (chain : Chain) :
    Accounts [(label, animation)] [] stage (stage.bind label animation chain).1 := by
  have read {α : Type} {read : Event → Option α}
      (silent : ∀ event, Event.isUncounted event = true → read event = none) :
      gather read (stage.bind label animation chain).1.history =
        gather read stage.history ++
          (read (.bound ⟨stage.bindingCount + 1⟩ label animation)).toList := by
    rw [bind_eq]
    show gather read (welcome _ label animation _ ++ stage.history) = _
    rw [gather_append, gather_welcome silent]
  have binds := bind_binds stage label animation chain
  exact ⟨binds.bindingCount, read fun _ => Event.bound?_of_isUncounted, binds.runCount,
    read fun _ => Event.scheduled?_of_isUncounted, [], [],
    binds.diagnostics.trans (List.append_nil _).symm,
    read fun _ => Event.reported?_of_isUncounted, read fun _ => Event.failed?_of_isUncounted,
    .nil⟩

/-! ## Operations -/

/-- The binding with an id is found if there is one. -/
theorem exists_binding? (stage : Stage) {id : BindingId}
    (here : ∃ binding ∈ stage.bindings, binding.id = id) :
    ∃ binding, stage.binding? id = some binding := by
  obtain ⟨binding, among, same⟩ := here
  refine Option.isSome_iff_exists.mp (List.find?_isSome.mpr ⟨binding, among, ?_⟩)
  simp [same]

theorem install_accounts (label : String) (chain : Chain) (state : Stage × List BindingId)
    (animation : Animation) :
    Accounts [(label, animation)] [(⟨state.1.bindingCount + 1⟩, .initial)] state.1
      (install label chain state animation).1 := by
  have binds := bind_binds state.1 label animation chain
  obtain ⟨subscriptions, bindings⟩ := binds.bindings
  obtain ⟨binding, found⟩ := exists_binding? (state.1.bind label animation chain).1
    ⟨_, by rw [bindings]; exact List.mem_append_right _ (List.mem_singleton.mpr rfl), rfl⟩
  have scheduled := schedule_accounts found .initial
  rw [binds.id_eq] at scheduled
  exact (bind_accounts state.1 label animation chain).trans scheduled

/-- The first runs of bindings with the numbers after a count. -/
def firstRuns (count : Nat) (bindings : Nat) : List (BindingId × RunReason) :=
  (List.range' (count + 1) bindings).map fun number => (⟨number⟩, .initial)

theorem foldl_install_accounts (label : String) (chain : Chain) (animations : List Animation)
    (state : Stage × List BindingId) :
    Accounts (animations.map fun animation => (label, animation))
      (firstRuns state.1.bindingCount animations.length) state.1
      (animations.foldl (install label chain) state).1 := by
  induction animations generalizing state with
  | nil => exact .refl state.1
  | cons animation rest ih =>
    have first := install_accounts label chain state animation
    have others := ih (install label chain state animation)
    rw [first.bindingCount] at others
    exact first.trans others

theorem enter_accounts (stage : Stage) {binding : Binding}
    (here : ∃ current ∈ stage.bindings, current.id = binding.id) :
    Accounts [] [(binding.id, .enteredView)] stage (stage.enter binding) := by
  have looks := lookAt_looks stage binding
  have looked : Accounts [] [] stage (stage.lookAt binding) :=
    .of_uncounted (looks.adds.mono fun _ => Event.isUncounted_of_isEnding)
      looks.bindingCount looks.runCount looks.diagnostics
  obtain ⟨current, there, same⟩ := here
  have still : ∃ other ∈ (stage.lookAt binding).bindings, other.id = binding.id := by
    rw [looks.bindings]
    refine ⟨_, List.mem_map_of_mem there, ?_⟩
    rw [if_pos same]
    exact same
  obtain ⟨found, isFound⟩ := exists_binding? (stage.lookAt binding) still
  rw [enter_eq]
  exact looked.trans (schedule_accounts isFound .enteredView)

theorem foldl_enter_accounts (entering : List Binding) (stage : Stage)
    (here : ∀ binding ∈ entering, ∃ current ∈ stage.bindings, current.id = binding.id) :
    Accounts [] (entering.map fun binding => (binding.id, .enteredView)) stage
      (entering.foldl enter stage) := by
  induction entering generalizing stage with
  | nil => exact .refl stage
  | cons binding rest ih =>
    obtain ⟨-, change, touches, changed⟩ := enter_bindings stage binding
    refine (enter_accounts stage (here binding List.mem_cons_self)).trans
      (ih (stage.enter binding) ?_)
    -- no binding leaves the stage when another enters the view
    intro other waiting
    obtain ⟨current, there, same⟩ := here other (List.mem_cons_of_mem _ waiting)
    refine ⟨_, changed ▸ List.mem_map_of_mem (List.mem_map_of_mem there), ?_⟩
    rw [touches.id_eq, ← same]
    split <;> rfl

theorem apply_accounts (stage : Stage) (element : ElementId) (directive : Directive)
    (chain : Chain) :
    let label := directive.label stage.settings.directiveStart
    let animations := (directive.compile (stage.data.scope chain) element label).result
    Accounts (animations.map fun animation => (label, animation))
      (firstRuns stage.bindingCount animations.length) stage
      (stage.apply element directive chain).1 := by
  intro label animations
  let chosen (binding : Binding) : Bool := binding.element = element && binding.label = label
  have releases := release_releases stage chosen
  -- the directive is compiled after the release, which leaves the data as they are
  let compiled := directive.compile ((stage.release chosen).data.scope chain) element label
  have same : animations = compiled.result := by
    show (directive.compile (stage.data.scope chain) element label).result = compiled.result
    rw [← releases.data]
  have absorbed : Accounts [] [] (stage.release chosen)
      ((stage.release chosen).absorb compiled.diagnostics) := by
    rw [absorb_eq_reportAll]
    exact reportAll_accounts _ (fun _ => directive.level_compile _ element) _
  have ready := (release_accounts stage chosen).trans absorbed
  have installed := foldl_install_accounts label chain compiled.result
    ((stage.release chosen).absorb compiled.diagnostics, [])
  rw [ready.bindingCount] at installed
  rw [same]
  exact ready.trans installed

theorem lookup_accounts (stage : Stage) (name : String) :
    Accounts [] [] stage (stage.lookup name).1 := by
  unfold lookup
  split
  · exact reportAll_accounts [_] (by simp) stage
  · exact .of_uncounted ⟨[_], by simp [Event.isUncounted], rfl⟩ rfl rfl rfl

theorem sequence_accounts (stage : Stage) (names : List String) (options : Fields Value) :
    Accounts [] [] stage (stage.sequence names options).1 := by
  refine sequence_induction (motive := Accounts [] [] stage) (.refl stage) names options
    (fun before diagnostic warning early => ?_) fun before _ early => ?_
  · refine early.trans (reportAll_accounts [diagnostic] ?_ before)
    simp [warning]
  · exact early.trans (.of_uncounted ⟨[_], by simp [Event.isUncounted], rfl⟩ rfl rfl rfl)

end Stage

end Choreography
