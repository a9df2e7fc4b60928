import Choreography.Helper.Catalogue
import Choreography.Proofs.Stage.Conservation

/-!
# What is reported

A diagnostic is written to the log when it is found.  Those of runs, of names and of timelines
are kept at once (`Stage.report`), those of a compilation together once it is over
(`Stage.absorb`).  Either way **the log and the store hold the same**, as long as nothing is
taken (`reported_once`).

A directive that is applied first ends the bindings of an earlier application; then its
compilation reports, and then the runs that it schedules (`apply_reports`).
-/

namespace Choreography

/-- What is written to the log of a diagnostic. -/
def Diagnostic.line (diagnostic : Diagnostic) : Level × String :=
  (diagnostic.level, diagnostic.message)

namespace Event

/-- Whether an event reports a diagnostic. -/
def isReport : Event → Bool
  | .reported _ => true
  | _ => false

/-- Whether an event neither reports anything nor is the end of a run with an error. -/
def isNoReport : Event → Bool
  | .failed .. => false
  | event => !event.isReport

variable {event : Event}

theorem failed?_of_isNoReport (silent : event.isNoReport = true) : event.failed? = none := by
  cases event <;> first | rfl | cases silent

theorem reported?_of_isNoReport (silent : event.isNoReport = true) : event.reported? = none := by
  cases event <;> first | rfl | cases silent

theorem isNoReport_of_isUncounted (uncounted : event.isUncounted = true) :
    event.isNoReport = true := by
  cases event <;> first | rfl | cases uncounted

theorem isNoReport_of_isBeginning (beginning : event.isBeginning = true) :
    event.isNoReport = true := by
  cases event <;> first | rfl | cases beginning

end Event

/-- The lines of the log that are reports are those of what is reported. -/
theorem gather_logLine?_filter_isReport (history : List Event) :
    gather Event.logLine? (history.filter Event.isReport) =
      (gather Event.reported? history).map Diagnostic.line := by
  rw [gather, gather, ← List.filter_reverse, List.filterMap_filter, List.map_filterMap]
  refine congrArg (List.filterMap · history.reverse) (funext fun event => ?_)
  cases event <;> rfl

namespace Stage

variable {before after : Stage}

/-! ## Failures of runs -/

/-- All that is reported from one stage to a later one are failures of runs, each once and in
turn, and all of it is kept. -/
def Fails (before after : Stage) : Prop :=
  ∃ events, after.history = events ++ before.history ∧
    List.Forall₂ Tells (gather Event.failed? events) (gather Event.reported? events) ∧
    after.diagnostics = before.diagnostics ++ gather Event.reported? events

theorem Fails.of_silent (adds : Adds Event.isNoReport before after)
    (same : after.diagnostics = before.diagnostics) : Fails before after := by
  obtain ⟨events, silent, added⟩ := adds
  have unfailed : gather Event.failed? events = [] :=
    gather_eq_nil fun event here => Event.failed?_of_isNoReport (silent event here)
  have unreported : gather Event.reported? events = [] :=
    gather_eq_nil fun event here => Event.reported?_of_isNoReport (silent event here)
  refine ⟨events, added, ?_, ?_⟩
  · rw [unfailed, unreported]
    exact .nil
  · rw [unreported, same, List.append_nil]

theorem Fails.trans {first second third : Stage} (early : Fails first second)
    (late : Fails second third) : Fails first third := by
  obtain ⟨events, added, told, kept⟩ := early
  obtain ⟨more, appended, others, stored⟩ := late
  refine ⟨more ++ events, by rw [appended, added, List.append_assoc], ?_, ?_⟩
  · rw [gather_append, gather_append]
    exact List.rel_append told others
  · rw [stored, kept, gather_append, List.append_assoc]

/-- What tells of failures is an error. -/
theorem level_of_tells {failures : List (RunId × BindingId × ResolveError)}
    {reports : List Diagnostic} (told : List.Forall₂ Tells failures reports) :
    ∀ diagnostic ∈ reports, diagnostic.level = .error := by
  induction told with
  | nil => nofun
  | cons first _ ih =>
    obtain ⟨label, rfl⟩ := first
    exact List.forall_mem_cons.mpr ⟨rfl, ih⟩

/-- A run that goes on reports nothing but its own failure. -/
theorem advance_fails {stage : Stage} {binding : Binding}
    (found : stage.binding? binding.id = some binding) (run : RunId) (reason : RunReason)
    (outcome : Except ResolveError Resolution) :
    Fails stage (stage.advance run binding reason outcome).1 := by
  match outcome with
  | .ok (.ready resolved) =>
    have dispatches := dispatch_dispatches found run reason resolved
    exact .of_silent (dispatches.adds
      (fun _ notice => Event.isNoReport_of_isUncounted (Event.isUncounted_of_isNotice notice))
      (fun _ play => Event.isNoReport_of_isUncounted (Event.isUncounted_of_isPlayOf play)) rfl)
      dispatches.keeps.diagnostics
  | .ok (.pending options) => exact .of_silent (Adds.refl _ stage) rfl
  | .error error =>
    exact ⟨[.reported (failure binding.animation.label error), .failed run binding.id error],
      rfl, .cons ⟨_, rfl⟩ .nil, rfl⟩

theorem schedule_fails (stage : Stage) (id : BindingId) (reason : RunReason) :
    Fails stage (stage.schedule id reason).1 := by
  refine schedule_cases (motive := Fails stage) stage id reason
    (.of_silent (Adds.refl _ stage) rfl) ?_
  intro binding found _ outcome
  have kind : (Event.scheduled (stage.runCount + 1) binding.id reason).isNoReport = true := rfl
  have started : Fails stage (stage.start binding reason) := .of_silent (.single kind rfl) rfl
  exact started.trans (advance_fails found _ reason outcome)

theorem foldl_install_fails (label : String) (chain : Chain) (animations : List Animation)
    (state : Stage × List BindingId) :
    Fails state.1 (animations.foldl (install label chain) state).1 := by
  induction animations generalizing state with
  | nil => exact .of_silent (Adds.refl _ state.1) rfl
  | cons animation rest ih =>
    have binds := bind_binds state.1 label animation chain
    have bound : Fails state.1 (state.1.bind label animation chain).1 :=
      .of_silent (binds.adds.mono fun _ => Event.isNoReport_of_isBeginning) binds.diagnostics
    exact (bound.trans (schedule_fails _ _ .initial)).trans
      (ih (install label chain state animation))

/-! ## Reports of a compilation -/

theorem history_foldl_log (diagnostics : List Diagnostic) (stage : Stage) :
    (diagnostics.foldl log stage).history =
      (diagnostics.map .reported).reverse ++ stage.history := by
  induction diagnostics generalizing stage with
  | nil => rfl
  | cons diagnostic rest ih =>
    rw [List.map_cons, List.reverse_cons, List.append_assoc]
    exact ih (stage.log diagnostic)

theorem diagnostics_foldl_log (diagnostics : List Diagnostic) (stage : Stage) :
    (diagnostics.foldl log stage).diagnostics = stage.diagnostics := by
  induction diagnostics generalizing stage with
  | nil => rfl
  | cons diagnostic rest ih => exact ih (stage.log diagnostic)

theorem diagnostics_absorb (diagnostics : List Diagnostic) (stage : Stage) :
    (stage.absorb diagnostics).diagnostics = stage.diagnostics ++ diagnostics :=
  congrArg (· ++ diagnostics) (diagnostics_foldl_log diagnostics stage)

/-- How the reports of a directive stand that is applied.  The events of `early` end bindings and
nothing else.  Then each diagnostic of the compilation is logged once.  The events of `late`
schedule all its runs, and report failures of runs and nothing else, each once and in turn.  The
store grows by just what is logged. -/
structure ReportsInTurn (compiled : Expression.Compiled (List Animation))
    (early late : List Event) (before after : Stage) : Prop where
  history : after.history =
    late ++ ((compiled.diagnostics.map .reported).reverse ++ (early ++ before.history))
  endings : ∀ event ∈ early, event.isEnding = true
  scheduled : gather Event.scheduled? late =
    numbered before.runCount (firstRuns before.bindingCount compiled.result.length)
  told : List.Forall₂ Tells (gather Event.failed? late) (gather Event.reported? late)
  diagnostics : after.diagnostics =
    before.diagnostics ++ compiled.diagnostics ++ gather Event.reported? late
  /-- No diagnostic of the compilation is an error. -/
  mild : ∀ diagnostic ∈ compiled.diagnostics, diagnostic.level ≠ .error
  /-- Those of failures are errors. -/
  errors : ∀ diagnostic ∈ gather Event.reported? late, diagnostic.level = .error

/-- **A directive that is applied** reports what its compilation finds, and then failures of its
runs. -/
theorem apply_reports (stage : Stage) (element : ElementId) (directive : Directive)
    (chain : Chain) : ∃ early late,
      ReportsInTurn (directive.compile (stage.data.scope chain) element
        (directive.label stage.settings.directiveStart)) early late stage
        (stage.apply element directive chain).1 := by
  let label := directive.label stage.settings.directiveStart
  let chosen (binding : Binding) : Bool := binding.element = element && binding.label = label
  have releases := release_releases stage chosen
  let compiled := directive.compile ((stage.release chosen).data.scope chain) element label
  -- the release before the compilation leaves data and diagnostics as they are
  have same : directive.compile (stage.data.scope chain) element label = compiled := by
    show _ = directive.compile ((stage.release chosen).data.scope chain) element label
    rw [releases.data]
  obtain ⟨early, endings, ended⟩ := releases.adds
  obtain ⟨late, added, told, kept⟩ := foldl_install_fails label chain compiled.result
    ((stage.release chosen).absorb compiled.diagnostics, [])
  have history : (stage.apply element directive chain).1.history =
      late ++ ((compiled.diagnostics.map .reported).reverse ++ (early ++ stage.history)) := by
    refine added.trans ?_
    show late ++ (compiled.diagnostics.foldl log (stage.release chosen)).history = _
    rw [history_foldl_log, ended]
  -- neither the end of a binding nor a report schedules a run, so all that are asked for are late
  have unscheduled (event : Event) (here : event ∈ (compiled.diagnostics.map .reported).reverse) :
      event.scheduled? = none := by
    obtain ⟨diagnostic, -, rfl⟩ := List.mem_map.mp (List.mem_reverse.mp here)
    rfl
  have idle (event : Event) (here : event ∈ early) : event.scheduled? = none :=
    Event.scheduled?_of_isUncounted (Event.isUncounted_of_isEnding (endings event here))
  have asked := (apply_accounts stage element directive chain).scheduled
  rw [history, gather_append, gather_append_of_silent unscheduled,
    gather_append_of_silent idle] at asked
  refine ⟨early, late, same ▸ history, endings, List.append_cancel_left asked, told, ?_,
    fun _ => directive.level_compile _ element, level_of_tells told⟩
  refine kept.trans ?_
  rw [diagnostics_absorb, releases.diagnostics, ← same]

/-- **A stage reports what the compilation reports**, and then failures of runs. -/
theorem diagnostics_apply (stage : Stage) (element : ElementId) (directive : Directive)
    (chain : Chain) : ∃ failures : List Diagnostic,
      (∀ diagnostic ∈ failures, diagnostic.level = .error) ∧
      (stage.apply element directive chain).1.diagnostics = stage.diagnostics ++
        (directive.compile (stage.data.scope chain) element
          (directive.label stage.settings.directiveStart)).diagnostics ++ failures := by
  obtain ⟨early, late, reports⟩ := apply_reports stage element directive chain
  exact ⟨gather Event.reported? late, reports.errors, reports.diagnostics⟩

/-! ## The log and the store -/

/-- Whatever is done but to take the diagnostics, what is reported is kept. -/
theorem performAll_reports (operations : List Operation) {stage : Stage} (sound : Sound stage [])
    (subscribed : Subscribed stage) (untaken : .clearDiagnostics ∉ operations) :
    ∃ reports failures, Reports reports failures stage (stage.performAll operations) := by
  induction operations generalizing stage with
  | nil => exact ⟨[], [], .of_uncounted (Adds.refl _ stage) rfl⟩
  | cons operation rest ih =>
    have keeps : operation ≠ .clearDiagnostics := fun clears =>
      untaken (clears ▸ List.mem_cons_self)
    obtain ⟨reports, failures, first⟩ := (perform_accounts subscribed operation keeps).reports
    obtain ⟨more, others, second⟩ := ih (performAll_sound sound [operation])
      (performAll_subscribed sound subscribed [operation])
      fun here => untaken (List.mem_cons_of_mem _ here)
    exact ⟨reports ++ more, failures ++ others, first.trans second⟩

/-- **A diagnostic is logged once and kept once.**  After any operations on a new stage by which
nothing is taken, the lines of the log that are reports are those of the diagnostics that are
kept, in the same order.  A directive that is then applied logs and keeps each diagnostic of its
compilation once, before those of the runs that it schedules (`ReportsInTurn`). -/
theorem reported_once (settings : Settings) (data : Store) (source : HelperSupply)
    (operations : List Operation) (untaken : .clearDiagnostics ∉ operations) :
    let stage := (new settings data source).performAll operations
    gather Event.logLine? (stage.history.filter Event.isReport) =
        stage.diagnostics.map Diagnostic.line ∧
      gather Event.reported? stage.history = stage.diagnostics ∧
      ∀ element directive chain, ∃ early late,
        ReportsInTurn (directive.compile (stage.data.scope chain) element
          (directive.label stage.settings.directiveStart)) early late stage
          (stage.apply element directive chain).1 := by
  intro stage
  obtain ⟨reports, failures, kept⟩ := performAll_reports operations
    (new_sound settings data source) (new_subscribed settings data source) untaken
  have logged : gather Event.reported? stage.history = stage.diagnostics :=
    kept.reported.trans kept.diagnostics.symm
  refine ⟨?_, logged, apply_reports stage⟩
  rw [gather_logLine?_filter_isReport, logged]

namespace SlowHelper

/-- A source that knows one helper, which turns out to be unavailable at the second poll. -/
def helpers : HelperSource := fun name =>
  if name = "slow" then .later (some (1, none)) else .missing

/-- Two directives are applied, each with an entry that is skipped and a call that fails, the
first at a tick and the second at once; then a name is asked for that nothing has. -/
def operations : List Operation :=
  [.apply ⟨1⟩ ⟨none, [], "\x7bx: slow(), y\x7d"⟩ [],
    .apply ⟨2⟩ ⟨none, [], "\x7bz: nosuch(), w\x7d"⟩ [], .tick, .lookup "gone"]

end SlowHelper

open SlowHelper in
/-- Reports of compilations, of runs and of names stand in the log in the order in which they
were made. -/
theorem reported_once_of_slow_helper :
    let stage := (new .standard [] helpers).performAll operations
    gather Event.logLine? (stage.history.filter Event.isReport) =
        [(.warning, "跳过无法解析的条目: 条目缺少冒号: 'y'"),
          (.warning, "跳过无法解析的条目: 条目缺少冒号: 'w'"),
          (.error, "动画不会执行: 未知的 helper 'nosuch'"),
          (.error, "动画不会执行: helper 'slow' 加载失败"),
          (.warning, "未找到动画 'gone'")] ∧
      gather Event.reported? stage.history = stage.diagnostics := by
  have untaken : .clearDiagnostics ∉ operations := by simp [operations]
  obtain ⟨lines, logged, -⟩ := reported_once .standard [] helpers operations untaken
  exact ⟨lines.trans (by decide +kernel), logged⟩

end Stage

end Choreography
