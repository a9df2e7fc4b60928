import Choreography.Proofs.Resolution.Answers
import Choreography.Proofs.Resolution.Await

/-!
# Sessions with a resolver

Everything that can be done with one resolver, in any order: asking for the value of a call or
of options, polling what waits, asking whether a helper is here, and, from outside, the
delivery of a helper that is awaited.  The source of helpers may answer differently each time
that something is asked for; within one step it is asked at most once for a helper until it
has it, so one answer for each name is enough.

A step leaves a trace of events: what the source was asked for and what it offered, what was
delivered, and what was answered.

What is waited for fits what was asked for (`Task.Fits`): a task keeps the arguments that its
call had at the start, and comes to the value of its template in the scope of that time
(`begin_fits`, `poll_fits`).
-/

namespace Choreography

namespace Session

/-- What is asked of a resolver: the value of a call, or the values of options. -/
inductive Errand where
  | ofCall (call : Call)
  | ofOptions (options : Fields Template)

/-- What an errand comes to. -/
inductive Answer where
  | value (value : Value)
  | options (options : Fields Value)

/-- An errand that waits for helpers. -/
inductive Waiting where
  | ofCall (call : WaitingCall)
  | ofOptions (options : PendingOptions)

/-- Where an errand stands. -/
inductive Standing where
  | done (outcome : Except ResolveError Answer)
  | waits (waiting : Waiting)

namespace Standing

/-- Where the call of a helper stands, told from its sketch. -/
def ofSketch (helper : String) : Sketch → Standing
  | .waiting call => .waits (.ofCall call)
  | sketch => .done ((sketch.finish helper).map .value)

/-- Where options stand. -/
def ofResolution : Resolution → Standing
  | .ready options => .done (.ok (.options options))
  | .pending options => .waits (.ofOptions options)

/-- Where an errand stands that may have failed. -/
def ofAttempt {α : Type} (standing : α → Standing) : Except ResolveError α → Standing
  | .ok stage => standing stage
  | .error error => .done (.error error)

end Standing

/-- The first step of an errand. -/
def Errand.begin (source : HelperSource) (scope : Scope) (loader : Loader) :
    Errand → Loader × Standing
  | .ofCall call =>
    let (loader, sketched) := Sketch.ofCall source scope loader call
    (loader, .ofAttempt (.ofSketch call.helper) sketched)
  | .ofOptions options =>
    let (loader, resolved) := Template.resolve source scope loader options
    (loader, .ofAttempt .ofResolution resolved)

/-- The names of the helpers that an errand calls. -/
def Errand.helpers : Errand → List String
  | .ofCall call => [call.helper]
  | .ofOptions options => Template.fieldHelpers options

/-- What an errand comes to in a scope, given one helper for each name. -/
def Errand.answer? (supply : String → Option Helper) (scope : Scope) : Errand → Option Answer
  | .ofCall call => (call.answer? supply scope).map .value
  | .ofOptions options => (Template.fieldAnswers? supply scope options).map .options

/-- One poll of an errand that waits. -/
def Waiting.poll (loader : Loader) : Waiting → Loader × Standing
  | .ofCall call =>
    let (loader, sketch) := Sketch.pollCall loader call
    (loader, .ofSketch call.helper sketch)
  | .ofOptions options =>
    let (loader, resolved) := PendingOptions.poll loader options
    (loader, .ofAttempt .ofResolution resolved)

/-- An errand that waits, with the scope that it was begun in. -/
structure Task where
  scope : Scope
  errand : Errand
  waiting : Waiting

/-- Something that was seen to happen. -/
inductive Event where
  /-- The source was asked for a helper. -/
  | requested (name : String) (offer : Offer)
  /-- The load of an awaited helper came to its end. -/
  | delivered (name : String) (delivery : Option Helper)
  | finished (scope : Scope) (errand : Errand) (outcome : Except ResolveError Answer)
  /-- It was asked whether a helper is here. -/
  | asked (name : String) (loaded : Bool)

namespace Standing

/-- What is left to poll of an errand. -/
def task? (scope : Scope) (errand : Errand) : Standing → Option Task
  | .done _ => none
  | .waits waiting => some ⟨scope, errand, waiting⟩

/-- The outcome of an errand, if it has one. -/
def events (scope : Scope) (errand : Errand) : Standing → List Event
  | .done outcome => [.finished scope errand outcome]
  | .waits _ => []

end Standing

/-- Something that is done with a resolver. -/
inductive Action where
  | begin (source : HelperSource) (scope : Scope) (errand : Errand)
  /-- One poll of the errand that was begun as the one of this number. -/
  | poll (index : Nat)
  | deliver (name : String) (delivery : Option Helper)
  | ask (name : String)

/-- The requests that were made of a source while a loader went on, the earliest first. -/
def requestsBetween (source : HelperSource) (loader later : Loader) : List Event :=
  (later.requests.take (later.requests.length - loader.requests.length)).reverse.map
    fun name => .requested name (source name)

end Session

/-- A resolver with what is left of each errand that was begun. -/
structure Session where
  loader : Loader
  tasks : List (Option Session.Task)

namespace Session

/-- A resolver of which nothing was asked. -/
def empty : Session := ⟨.empty, []⟩

/-- One step, and the events of it. -/
def step (session : Session) : Action → Session × List Event
  | .begin source scope errand =>
    let (loader, standing) := errand.begin source scope session.loader
    (⟨loader, session.tasks ++ [standing.task? scope errand]⟩,
      requestsBetween source session.loader loader ++ standing.events scope errand)
  | .poll index =>
    match session.tasks[index]? with
    | some (some task) =>
      let (loader, standing) := task.waiting.poll session.loader
      (⟨loader, session.tasks.set index (standing.task? task.scope task.errand)⟩,
        standing.events task.scope task.errand)
    | _ => (session, [])
  | .deliver name delivery =>
    match session.loader.deliver? name delivery with
    | some loader => (⟨loader, session.tasks⟩, [.delivered name delivery])
    | none => (session, [])
  | .ask name => (session, [.asked name (session.loader.isLoaded name)])

/-- Steps one after the other, and the events of all of them, the earliest first. -/
def run (session : Session) : List Action → Session × List Event
  | [] => (session, [])
  | action :: rest =>
    let (next, events) := session.step action
    let (last, later) := next.run rest
    (last, events ++ later)

/-! ## What waits fits what was asked for -/

/-- Why a call is refused whose helper does not come: the arguments are looked at first. -/
def refusal (scope : Scope) (call : Call) : ResolveError :=
  match Arguments.evaluate scope call.arguments with
  | .ok _ => .helperUnavailable call.helper
  | .error error => .arguments call.helper error

/-- What is waited for comes to what was asked for. -/
inductive Task.Fits (loader : Loader) : Task → Prop
  | ofCall {scope : Scope} {call : Call} {arguments : List Value}
      (evaluated : Arguments.evaluate scope call.arguments = .ok arguments) :
      Fits loader ⟨scope, .ofCall call, .ofCall ⟨call.helper, arguments⟩⟩
  | ofOptions {scope : Scope} {options : Fields Template} {waiting : PendingOptions}
      (comes : ∀ supply, Supplies supply loader →
        (Sketch.settleFields supply waiting).toOption =
          Template.fieldAnswers? supply scope options) :
      Fits loader ⟨scope, .ofOptions options, .ofOptions waiting⟩

/-- An outcome is what the helpers that have come make of an errand, and a call whose helper
does not come is refused. -/
structure Honest (loader : Loader) (scope : Scope) (errand : Errand)
    (outcome : Except ResolveError Answer) : Prop where
  answered : ∀ answer, outcome = .ok answer → ∀ supply, Supplies supply loader →
    errand.answer? supply scope = some answer
  refused : ∀ call, errand = .ofCall call → loader.arrival? call.helper = some .unavailable →
    outcome = .error (refusal scope call)

/-- An errand stands as it should. -/
inductive Standing.Fits (loader : Loader) (scope : Scope) (errand : Errand) : Standing → Prop
  | done {outcome : Except ResolveError Answer} (honest : Honest loader scope errand outcome) :
      Fits loader scope errand (.done outcome)
  | waits {waiting : Waiting} (fits : Task.Fits loader ⟨scope, errand, waiting⟩) :
      Fits loader scope errand (.waits waiting)

theorem Task.Fits.of_precedes {loader later : Loader} {task : Task} (fits : task.Fits loader)
    (precedes : loader.Precedes later) : task.Fits later := by
  cases fits with
  | ofCall evaluated => exact .ofCall evaluated
  | ofOptions comes =>
    exact .ofOptions fun supply supplies => comes supply (supplies.of_precedes precedes)

variable {source : HelperSource} {scope : Scope} {loader later : Loader}

/-- A failure gives no answer. -/
theorem Honest.of_error {errand : Errand} {error : ResolveError}
    (refused : ∀ call, errand = .ofCall call →
      loader.arrival? call.helper = some .unavailable → error = refusal scope call) :
    Honest loader scope errand (.error error) where
  answered := nofun
  refused := fun call same unavailable => congrArg _ (refused call same unavailable)

theorem Honest.of_failed_options {options : Fields Template} {error : ResolveError} :
    Honest loader scope (.ofOptions options) (.error error) := by
  refine .of_error ?_
  intro call same
  cases same

/-- A helper that is here answers a call with what it makes of the arguments. -/
theorem Honest.of_ready {call : Call} {arguments : List Value} {helper : Helper}
    (evaluated : Arguments.evaluate scope call.arguments = .ok arguments)
    (ready : loader.arrival? call.helper = some (.ready helper)) :
    Honest loader scope (.ofCall call) (.ok (.value (helper arguments))) where
  answered := by
    intro answer same supply supplies
    cases same
    have given := supplies _ _ ready rfl
    cases supplied : supply call.helper with
    | none => rw [supplied] at given; cases given
    | some other =>
      rw [supplied] at given
      cases given
      simp [Errand.answer?, Call.answer?, evaluated, supplied, Except.toOption]
  refused := by
    intro other same unavailable
    cases same
    rw [ready] at unavailable
    cases unavailable

theorem begin_call_fits (call : Call) :
    ((Errand.ofCall call).begin source scope loader).2.Fits
      ((Errand.ofCall call).begin source scope loader).1 scope (.ofCall call) := by
  rw [Errand.begin, Sketch.ofCall]
  cases evaluated : Arguments.evaluate scope call.arguments with
  | error error =>
    refine .done (.of_error fun other same _ => ?_)
    cases same
    rw [refusal, evaluated]
  | ok arguments =>
    cases demanded : loader.demand source call.helper with
    | mk later arrival =>
      cases arrival with
      | none =>
        -- a helper that the source does not know stays unasked for
        have unasked := Loader.arrival?_demand_none demanded
        refine .done (.of_error fun other same unavailable => ?_)
        cases same
        rw [unasked] at unavailable
        cases unavailable
      | some arrival =>
        have here := Loader.arrival?_demand demanded
        cases arrival with
        | ready helper => exact .done (.of_ready evaluated here)
        | unavailable =>
          refine .done (.of_error fun other same _ => ?_)
          cases same
          rw [refusal, evaluated]
        | awaited => exact .waits (.ofCall evaluated)
        | arriving => exact .waits (.ofCall evaluated)

/-- Options that are open wait, and others are finished. -/
theorem fits_ofPending {options : Fields Template} {sketches : PendingOptions}
    (comes : ∀ supply, Supplies supply loader →
      (Sketch.settleFields supply sketches).toOption =
        Template.fieldAnswers? supply scope options) :
    (Standing.ofAttempt .ofResolution (Resolution.ofPending sketches)).Fits loader scope
      (.ofOptions options) := by
  by_cases closed : Sketch.fieldsAwaited sketches = []
  · rw [Resolution.ofPending_of_closed closed]
    cases finished : PendingOptions.finish sketches with
    | error error => exact .done .of_failed_options
    | ok values =>
      refine .done ⟨?_, nofun⟩
      intro answer same supply supplies
      cases same
      rw [Errand.answer?, ← comes supply supplies,
        ← Sketch.finish_eq_settleFields sketches closed, finished]
      rfl
  · rw [Resolution.ofPending_of_open closed]
    exact .waits (.ofOptions comes)

/-- **The first step of an errand** leaves it as it should stand. -/
theorem begin_fits (source : HelperSource) (scope : Scope) (loader : Loader) (errand : Errand) :
    (errand.begin source scope loader).2.Fits (errand.begin source scope loader).1 scope
      errand := by
  cases errand with
  | ofCall call => exact begin_call_fits call
  | ofOptions options =>
    rw [Errand.begin, Template.resolve]
    cases sketched : Sketch.ofFields source scope loader options with
    | mk later outcome =>
      cases outcome with
      | error error => exact .done .of_failed_options
      | ok sketches =>
        exact fits_ofPending fun supply supplies => Sketch.toOption_settleFields sketched supplies

/-- **A poll** leaves an errand as it should stand. -/
theorem poll_fits {task : Task} (fits : task.Fits loader) :
    (task.waiting.poll loader).2.Fits (task.waiting.poll loader).1 task.scope task.errand := by
  cases fits with
  | @ofCall scope call arguments evaluated =>
    have answer := Loader.snd_poll loader call.helper
    dsimp only [Waiting.poll, Sketch.pollCall]
    cases polled : loader.poll call.helper with
    | mk later arrival =>
      rw [polled] at answer
      cases arrival with
      | none => exact .waits (.ofCall evaluated)
      | some arrival =>
        cases arrival with
        | ready helper => exact .done (.of_ready evaluated answer.symm)
        | unavailable =>
          refine .done (.of_error fun other same _ => ?_)
          cases same
          rw [refusal, evaluated]
        | awaited => exact .waits (.ofCall evaluated)
        | arriving => exact .waits (.ofCall evaluated)
  | @ofOptions scope options waiting comes =>
    refine fits_ofPending fun supply supplies => ?_
    have early := supplies.of_precedes (Sketch.pollFields_narrows loader waiting).precedes
    rw [Sketch.settleFields_pollFields loader waiting supplies, comes supply early]

end Session

end Choreography
