import Choreography.Proofs.Resolution.Places

/-!
# Waiting changes nothing

Options that had to wait for helpers come to what they would have come to at once,
had every helper been where it ended up.  The argument has three parts.

* `settle` gives the value of a sketch from what the helpers deliver.  Polls do not
  change it (`settleFields_pollFields`), so it can be read off the first sketch.
* When nothing is open any more, finishing a sketch gives this value
  (`finish_eq_settleFields`), so no open place is ever found at the end.
* Sketching the template again where every helper has settled gives this value at
  once (`ofFields_repeats`).

`await` polls options over time, with any happenings between two polls.
-/

namespace Choreography

namespace Loader

/-- The helper that a load delivered, if it delivered one. -/
def delivered? (loader : Loader) (name : String) : Option Helper :=
  match loader.arrival? name with
  | some (.ready helper) => some helper
  | _ => none

/-- The helpers that were asked for, each as it stands in a later loader. -/
def completed (asked later : Loader) : Loader :=
  { asked with
    arrivals := asked.arrivals.map fun entry =>
      (entry.1, (later.arrival? entry.1).getD entry.2) }

theorem arrival?_completed (asked later : Loader) (name : String) :
    (asked.completed later).arrival? name =
      (asked.arrival? name).map fun arrival => (later.arrival? name).getD arrival := by
  unfold completed arrival?
  generalize asked.arrivals = arrivals
  induction arrivals with
  | nil => rfl
  | cons entry rest ih =>
    obtain ⟨key, arrival⟩ := entry
    by_cases same : key = name
    · subst same
      simp [Fields.get?]
    · simpa [Fields.get?, same] using ih

end Loader

/-- A supply of helpers that agrees with every load that has settled. -/
def Supplies (supply : String → Option Helper) (loader : Loader) : Prop :=
  ∀ name arrival, loader.arrival? name = some arrival → arrival.isSettled = true →
    arrival = .ofDelivery (supply name)

theorem Supplies.of_precedes {supply : String → Option Helper} {earlier later : Loader}
    (supplies : Supplies supply later) (precedes : earlier.Precedes later) :
    Supplies supply earlier :=
  fun name arrival here settled =>
    supplies name arrival (precedes.settled name arrival here settled) settled

/-- A loader supplies what it delivered. -/
theorem supplies_delivered? (loader : Loader) : Supplies loader.delivered? loader := by
  intro name arrival here settled
  cases arrival with
  | ready helper => simp [Loader.delivered?, here, Arrival.ofDelivery]
  | unavailable => simp [Loader.delivered?, here, Arrival.ofDelivery]
  | awaited => cases settled
  | arriving => cases settled

namespace Sketch

/-- What a call comes to, given what its helper delivers. -/
def settleCall (supply : String → Option Helper) (call : WaitingCall) :
    Except ResolveError Value :=
  match supply call.helper with
  | some helper => .ok (helper call.arguments)
  | none => .error (.helperUnavailable call.helper)

mutual

/-- What a sketch comes to, given what the helpers deliver: the first place whose
helper does not come says so. -/
def settle (supply : String → Option Helper) : Sketch → Except ResolveError Value
  | .known value => .ok value
  | .array items => do
    let values ← settleItems supply items
    .ok (.array values)
  | .object fields => do
    let values ← settleFields supply fields
    .ok (.object values)
  | .waiting call => settleCall supply call
  | .failed helper => .error (.helperUnavailable helper)
termination_by structural sketch => sketch

/-- What a list of sketches comes to. -/
def settleItems (supply : String → Option Helper) :
    List Sketch → Except ResolveError (List Value)
  | [] => .ok []
  | item :: rest => do
    let value ← item.settle supply
    let values ← settleItems supply rest
    .ok (value :: values)
termination_by structural items => items

/-- What a list of fields comes to. -/
def settleFields (supply : String → Option Helper) :
    List (String × Sketch) → Except ResolveError (List (String × Value))
  | [] => .ok []
  | (name, sketch) :: rest => do
    let value ← sketch.settle supply
    let values ← settleFields supply rest
    .ok ((name, value) :: values)
termination_by structural fields => fields

end

variable {supply : String → Option Helper}

/-! ## Polls do not change what a sketch comes to -/

theorem settle_pollCall (loader : Loader) (call : WaitingCall)
    (supplies : Supplies supply (pollCall loader call).1) :
    (pollCall loader call).2.settle supply = settleCall supply call := by
  have answer := Loader.snd_poll loader call.helper
  unfold pollCall at supplies ⊢
  split <;> rename_i polled <;> rw [polled] at answer
  · rename_i later helper
    simp only [polled] at supplies
    have here := supplies _ _ answer.symm rfl
    cases given : supply call.helper with
    | none => rw [given] at here; cases here
    | some other =>
      rw [given] at here
      cases here
      simp [settle, settleCall, given]
  · simp only [polled] at supplies
    have here := supplies _ _ answer.symm rfl
    cases given : supply call.helper with
    | none => simp [settle, settleCall, given]
    | some other => rw [given] at here; cases here
  · rfl

mutual

theorem settle_poll (loader : Loader) (sketch : Sketch)
    (supplies : Supplies supply (sketch.poll loader).1) :
    (sketch.poll loader).2.settle supply = sketch.settle supply := by
  cases sketch with
  | known => rfl
  | array items =>
    show (Sketch.array (pollItems loader items).2).settle supply = _
    rw [settle, settle, settleItems_pollItems loader items supplies]
  | object fields =>
    show (Sketch.object (pollFields loader fields).2).settle supply = _
    rw [settle, settle, settleFields_pollFields loader fields supplies]
  | waiting call => exact settle_pollCall loader call supplies
  | failed => rfl

theorem settleItems_pollItems (loader : Loader) (items : List Sketch)
    (supplies : Supplies supply (pollItems loader items).1) :
    settleItems supply (pollItems loader items).2 = settleItems supply items := by
  cases items with
  | nil => rfl
  | cons item rest =>
    have late := (pollItems_narrows (item.poll loader).1 rest).precedes
    show settleItems supply ((item.poll loader).2 ::
      (pollItems (item.poll loader).1 rest).2) = _
    rw [settleItems, settleItems, settle_poll loader item (supplies.of_precedes late),
      settleItems_pollItems (item.poll loader).1 rest supplies]

theorem settleFields_pollFields (loader : Loader) (fields : List (String × Sketch))
    (supplies : Supplies supply (pollFields loader fields).1) :
    settleFields supply (pollFields loader fields).2 = settleFields supply fields := by
  match fields with
  | [] => rfl
  | (name, sketch) :: rest =>
    have late := (pollFields_narrows (sketch.poll loader).1 rest).precedes
    show settleFields supply ((name, (sketch.poll loader).2) ::
      (pollFields (sketch.poll loader).1 rest).2) = _
    rw [settleFields, settleFields, settle_poll loader sketch (supplies.of_precedes late),
      settleFields_pollFields (sketch.poll loader).1 rest supplies]

end

/-! ## Finishing a sketch without open places -/

mutual

theorem finish_eq_settle (field : String) (sketch : Sketch) (closed : sketch.awaited = []) :
    sketch.finish field = sketch.settle supply := by
  cases sketch with
  | known => rfl
  | array items =>
    rw [finish, settle, finishItems_eq_settleItems field items closed]
  | object fields =>
    rw [finish, settle, finishFields_eq_settleFields field fields closed]
  | waiting => cases closed
  | failed => rfl

theorem finishItems_eq_settleItems (field : String) (items : List Sketch)
    (closed : itemsAwaited items = []) :
    finishItems field items = settleItems supply items := by
  cases items with
  | nil => rfl
  | cons item rest =>
    obtain ⟨here, later⟩ := List.append_eq_nil_iff.mp closed
    rw [finishItems, settleItems, finish_eq_settle field item here,
      finishItems_eq_settleItems field rest later]

theorem finishFields_eq_settleFields (field : String) (fields : List (String × Sketch))
    (closed : fieldsAwaited fields = []) :
    finishFields field fields = settleFields supply fields := by
  match fields with
  | [] => rfl
  | (name, sketch) :: rest =>
    obtain ⟨here, later⟩ := List.append_eq_nil_iff.mp closed
    rw [finishFields, settleFields, finish_eq_settle field sketch here,
      finishFields_eq_settleFields field rest later]

end

/-- Options in which nothing is open come to the same however they are read. -/
theorem finish_eq_settleFields (options : List (String × Sketch))
    (closed : fieldsAwaited options = []) :
    PendingOptions.finish options = settleFields supply options := by
  induction options with
  | nil => rfl
  | cons field rest ih =>
    obtain ⟨name, sketch⟩ := field
    obtain ⟨here, later⟩ := List.append_eq_nil_iff.mp closed
    rw [PendingOptions.finish, settleFields, finish_eq_settle name sketch here, ih later]

/-! ## Sketching again where every helper has settled -/

/-- Every one of some helpers has settled, as the supply says. -/
def Stands (supply : String → Option Helper) (loader : Loader) (helpers : List String) :
    Prop :=
  ∀ name ∈ helpers, loader.arrival? name = some (.ofDelivery (supply name))

/-- A second sketching asks for nothing, leaves nothing open, and comes to an
outcome that is known already. -/
def Repeats {σ α : Type} (loader : Loader) (again : Attempt σ) (isClosed : σ → Prop)
    (settled : σ → Except ResolveError α) (outcome : Except ResolveError α) : Prop :=
  match outcome with
  | .ok value => ∃ done, again = (loader, .ok done) ∧ isClosed done ∧ settled done = .ok value
  | .error error => again = (loader, .error error)

/-- A second sketching fails as the first one comes to fail, or it succeeds with the value
that the first one comes to. -/
theorem Repeats.cases {σ α : Type} {loader : Loader} {again : Attempt σ} {isClosed : σ → Prop}
    {settled : σ → Except ResolveError α} {outcome : Except ResolveError α}
    (repeats : Repeats loader again isClosed settled outcome) :
    (∃ error, outcome = .error error ∧ again = (loader, .error error)) ∨
      ∃ done value, outcome = .ok value ∧ again = (loader, .ok done) ∧ isClosed done ∧
        settled done = .ok value := by
  cases outcome with
  | error error => exact .inl ⟨error, rfl, repeats⟩
  | ok value =>
    obtain ⟨done, repeated, closed, comes⟩ := repeats
    exact .inr ⟨done, value, rfl, repeated, closed, comes⟩

variable {source : HelperSource} {scope : Scope} {settled : Loader}

theorem ofCall_repeats {loader later : Loader} {call : Call} {sketch : Sketch}
    (sketched : ofCall source scope loader call = (later, .ok sketch))
    (supplies : Supplies supply later) (stands : Stands supply settled [call.helper]) :
    Repeats settled (ofCall source scope settled call) (awaited · = []) (settle supply)
      (sketch.settle supply) := by
  have demanded : settled.demand source call.helper =
      (settled, some (.ofDelivery (supply call.helper))) :=
    Loader.demand_of_arrival? (stands call.helper (List.mem_singleton.mpr rfl))
  -- both sketchings evaluate the same arguments; what differs is where the helper stands
  obtain ⟨arguments, evaluated, stood⟩ := exists_of_ofCall sketched
  have outcome : sketch.settle supply = settleCall supply ⟨call.helper, arguments⟩ := by
    rcases stood with ⟨helper, first, rfl⟩ | ⟨arrival, -, -, rfl⟩
    · have known := supplies _ _ (Loader.arrival?_demand first) rfl
      cases given : supply call.helper with
      | none => rw [given] at known; cases known
      | some other =>
        rw [given] at known
        cases known
        simp [settle, settleCall, given]
    · rfl
  unfold ofCall
  rw [evaluated, demanded, outcome, settleCall]
  cases supply call.helper with
  | none => rfl
  | some helper => exact ⟨.known (helper arguments), rfl, rfl, rfl⟩

mutual

theorem ofTemplate_repeats {loader later : Loader} {template : Template} {sketch : Sketch}
    (sketched : ofTemplate source scope loader template = (later, .ok sketch))
    (supplies : Supplies supply later) (stands : Stands supply settled template.helpers) :
    Repeats settled (ofTemplate source scope settled template) (awaited · = [])
      (settle supply) (sketch.settle supply) := by
  cases template with
  | literal value => cases sketched; exact ⟨_, rfl, rfl, rfl⟩
  | lookup reference => cases sketched; exact ⟨_, rfl, rfl, rfl⟩
  | invoke call => exact ofCall_repeats sketched supplies stands
  | array items =>
    obtain ⟨sketches, inner, rfl⟩ := exists_of_ofArray sketched
    rw [settle, ofTemplate]
    rcases (ofItems_repeats inner supplies stands).cases with
      ⟨error, outcome, repeated⟩ | ⟨done, values, outcome, repeated, closed, comes⟩
    · rw [outcome, repeated]
      rfl
    · rw [outcome, repeated]
      refine ⟨.array done, rfl, closed, ?_⟩
      rw [settle, comes]
      rfl
  | object fields =>
    obtain ⟨sketches, inner, rfl⟩ := exists_of_ofObject sketched
    rw [settle, ofTemplate]
    rcases (ofFields_repeats inner supplies stands).cases with
      ⟨error, outcome, repeated⟩ | ⟨done, values, outcome, repeated, closed, comes⟩
    · rw [outcome, repeated]
      rfl
    · rw [outcome, repeated]
      refine ⟨.object done, rfl, closed, ?_⟩
      rw [settle, comes]
      rfl

theorem ofItems_repeats {loader later : Loader} {items : List Template}
    {sketches : List Sketch}
    (sketched : ofItems source scope loader items = (later, .ok sketches))
    (supplies : Supplies supply later)
    (stands : Stands supply settled (Template.itemHelpers items)) :
    Repeats settled (ofItems source scope settled items) (itemsAwaited · = [])
      (settleItems supply) (settleItems supply sketches) := by
  cases items with
  | nil => cases sketched; exact ⟨_, rfl, rfl, rfl⟩
  | cons item rest =>
    obtain ⟨between, sketch, others, first, second, grows, rfl⟩ := exists_of_ofItems sketched
    rw [Template.itemHelpers_cons] at stands
    have head := ofTemplate_repeats first (supplies.of_precedes grows.precedes)
      (fun name called => stands name (List.mem_append_left _ called))
    have tail := ofItems_repeats second supplies
      (fun name called => stands name (List.mem_append_right _ called))
    rw [settleItems, ofItems]
    rcases head.cases with
      ⟨error, outcome, repeated⟩ | ⟨done, value, outcome, repeated, closed, here⟩
    · rw [outcome, repeated]
      rfl
    · rw [outcome]
      simp only [repeated]
      rcases tail.cases with
        ⟨error, outcomes, repeats⟩ | ⟨dones, values, outcomes, repeats, closeds, there⟩
      · rw [outcomes, repeats]
        rfl
      · rw [outcomes, repeats]
        refine ⟨done :: dones, rfl, ?_, ?_⟩
        · show itemsAwaited (done :: dones) = []
          rw [itemsAwaited, closed, closeds]
          rfl
        · rw [settleItems, here, there]
          rfl

/-- Options sketched again where every helper has settled come at once to what
the first sketch comes to. -/
theorem ofFields_repeats {loader later : Loader} {fields : List (String × Template)}
    {sketches : List (String × Sketch)}
    (sketched : ofFields source scope loader fields = (later, .ok sketches))
    (supplies : Supplies supply later)
    (stands : Stands supply settled (Template.fieldHelpers fields)) :
    Repeats settled (ofFields source scope settled fields) (fieldsAwaited · = [])
      (settleFields supply) (settleFields supply sketches) := by
  match fields with
  | [] => cases sketched; exact ⟨_, rfl, rfl, rfl⟩
  | (name, template) :: rest =>
    obtain ⟨between, sketch, others, first, second, grows, rfl⟩ := exists_of_ofFields sketched
    rw [Template.fieldHelpers_cons] at stands
    have head := ofTemplate_repeats first (supplies.of_precedes grows.precedes)
      (fun name called => stands name (List.mem_append_left _ called))
    have tail := ofFields_repeats second supplies
      (fun name called => stands name (List.mem_append_right _ called))
    rw [settleFields, ofFields]
    rcases head.cases with
      ⟨error, outcome, repeated⟩ | ⟨done, value, outcome, repeated, closed, here⟩
    · rw [outcome, repeated]
      rfl
    · rw [outcome]
      simp only [repeated]
      rcases tail.cases with
        ⟨error, outcomes, repeats⟩ | ⟨dones, values, outcomes, repeats, closeds, there⟩
      · rw [outcomes, repeats]
        rfl
      · rw [outcomes, repeats]
        refine ⟨(name, done) :: dones, rfl, ?_, ?_⟩
        · show fieldsAwaited ((name, done) :: dones) = []
          rw [fieldsAwaited, closed, closeds]
          rfl
        · rw [settleFields, here, there]
          rfl

end

end Sketch

end Choreography
