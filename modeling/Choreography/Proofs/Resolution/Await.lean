import Choreography.Proofs.Resolution.Slots

/-!
# Resolving now and resolving later

The result about waiting options, `await_eq_resolve_completed`: options that have
to wait, polled any number of times with anything else happening to the loader in
between, come to what resolving the same template at the same data would have come
to at once, had every helper been where it ended up.  They also come to what
writing the results back at their paths gives, and an open place is never found
where nothing should be open.
-/

namespace Choreography

/-! ## An open place is never an error -/

/-- A step and what follows it do not fail in a way in which neither does. -/
theorem bind_ne_error {ε α β : Type} {error : ε} {attempt : Except ε α}
    {next : α → Except ε β} (first : attempt ≠ .error error)
    (others : ∀ value, next value ≠ .error error) :
    (do let value ← attempt; next value) ≠ .error error := by
  cases attempt with
  | ok value => exact others value
  | error other =>
    intro equal
    cases equal
    exact first rfl

namespace Sketch

section

variable {supply : String → Option Helper}

mutual

theorem settle_ne_unresolved (field : String) (sketch : Sketch) :
    sketch.settle supply ≠ .error (.unresolved field) := by
  cases sketch with
  | known => exact nofun
  | array items => exact bind_ne_error (settleItems_ne_unresolved field items) nofun
  | object fields => exact bind_ne_error (settleFields_ne_unresolved field fields) nofun
  | waiting call =>
    rw [settle, settleCall]
    cases supply call.helper <;> exact nofun
  | failed => exact nofun

theorem settleItems_ne_unresolved (field : String) (items : List Sketch) :
    settleItems supply items ≠ .error (.unresolved field) := by
  cases items with
  | nil => exact nofun
  | cons item rest =>
    refine bind_ne_error (settle_ne_unresolved field item) ?_
    intro value
    exact bind_ne_error (settleItems_ne_unresolved field rest) nofun

theorem settleFields_ne_unresolved (field : String) (fields : List (String × Sketch)) :
    settleFields supply fields ≠ .error (.unresolved field) := by
  match fields with
  | [] => exact nofun
  | (name, sketch) :: rest =>
    refine bind_ne_error (settle_ne_unresolved field sketch) ?_
    intro value
    exact bind_ne_error (settleFields_ne_unresolved field rest) nofun

end

end

section

variable {source : HelperSource} {scope : Scope}

theorem ofCall_ne_unresolved (field : String) (loader : Loader) (call : Call) :
    (ofCall source scope loader call).2 ≠ .error (.unresolved field) := by
  unfold ofCall
  split
  · exact nofun
  · split <;> exact nofun

mutual

theorem ofTemplate_ne_unresolved (field : String) (loader : Loader) (template : Template) :
    (ofTemplate source scope loader template).2 ≠ .error (.unresolved field) := by
  cases template with
  | literal => exact nofun
  | lookup => exact nofun
  | invoke call => exact ofCall_ne_unresolved field loader call
  | array items =>
    have inner := ofItems_ne_unresolved field loader items
    unfold ofTemplate
    split <;> rename_i sketched <;> rw [sketched] at inner
    · exact nofun
    · exact fun equal => inner (congrArg _ (Except.error.inj equal))
  | object fields =>
    have inner := ofFields_ne_unresolved field loader fields
    unfold ofTemplate
    split <;> rename_i sketched <;> rw [sketched] at inner
    · exact nofun
    · exact fun equal => inner (congrArg _ (Except.error.inj equal))

theorem ofItems_ne_unresolved (field : String) (loader : Loader) (items : List Template) :
    (ofItems source scope loader items).2 ≠ .error (.unresolved field) := by
  cases items with
  | nil => exact nofun
  | cons item rest =>
    have first := ofTemplate_ne_unresolved field loader item
    unfold ofItems
    split <;> rename_i sketched <;> rw [sketched] at first
    · exact fun equal => first (congrArg _ (Except.error.inj equal))
    · rename_i between _
      have others := ofItems_ne_unresolved field between rest
      split <;> rename_i sketched' <;> rw [sketched'] at others
      · exact nofun
      · exact fun equal => others (congrArg _ (Except.error.inj equal))

theorem ofFields_ne_unresolved (field : String) (loader : Loader)
    (fields : List (String × Template)) :
    (ofFields source scope loader fields).2 ≠ .error (.unresolved field) := by
  match fields with
  | [] => exact nofun
  | (name, template) :: rest =>
    have first := ofTemplate_ne_unresolved field loader template
    unfold ofFields
    split <;> rename_i sketched <;> rw [sketched] at first
    · exact fun equal => first (congrArg _ (Except.error.inj equal))
    · rename_i between _
      have others := ofFields_ne_unresolved field between rest
      split <;> rename_i sketched' <;> rw [sketched'] at others
      · exact nofun
      · exact fun equal => others (congrArg _ (Except.error.inj equal))

end

end

end Sketch

/-! ## Where a resolution stands -/

/-- Options stand as pending while something in them is open, and come to what they
settle to when nothing is. -/
theorem Resolution.ofPending_eq (supply : String → Option Helper) (options : PendingOptions) :
    Resolution.ofPending options =
      if Sketch.fieldsAwaited options = [] then
        (Sketch.settleFields supply options).map .ready
      else .ok (.pending options) := by
  split
  · rename_i closed
    rw [Resolution.ofPending_of_closed closed]
    exact congrArg _ (Sketch.finish_eq_settleFields options closed)
  · rename_i isOpen
    exact Resolution.ofPending_of_open isOpen

theorem Resolution.ofPending_ne_unresolved (options : PendingOptions) (field : String) :
    Resolution.ofPending options ≠ .error (.unresolved field) := by
  have settled : Sketch.settleFields (fun _ => none) options ≠ .error (.unresolved field) :=
    Sketch.settleFields_ne_unresolved field options
  rw [Resolution.ofPending_eq (fun _ => none)]
  split
  · cases outcome : Sketch.settleFields (fun _ => none) options with
    | ok => exact nofun
    | error error =>
      rw [outcome] at settled
      exact fun equal => settled (congrArg _ (Except.error.inj equal))
  · exact nofun

/-- Resolving never reports an open place. -/
theorem Template.resolve_ne_unresolved (source : HelperSource) (scope : Scope)
    (loader : Loader) (options : Fields Template) (field : String) :
    (Template.resolve source scope loader options).2 ≠ .error (.unresolved field) := by
  have sketching : (Sketch.ofFields source scope loader options).2 ≠
      .error (.unresolved field) :=
    Sketch.ofFields_ne_unresolved field loader options
  unfold Template.resolve
  split <;> rename_i sketched <;> rw [sketched] at sketching
  · exact Resolution.ofPending_ne_unresolved _ field
  · exact fun equal => sketching (congrArg _ (Except.error.inj equal))

/-! ## Polls over time -/

namespace PendingOptions

/-- Options that wait, polled once after the happenings of each turn for as long as
something in them is open. -/
def await (options : PendingOptions) (loader : Loader) :
    List (List Loader.Happening) → Attempt Resolution
  | [] => (loader, .ok (.pending options))
  | happenings :: turns =>
    match PendingOptions.poll (happenings.foldl Loader.after loader) options with
    | (later, .ok (.pending options)) => options.await later turns
    | finished => finished

/-- What one poll of waiting options does: places close, and what the options come
to stays the same. -/
theorem poll_eq (loader : Loader) (options : PendingOptions) :
    ∃ later still, Narrows loader later (Sketch.fieldsAwaited options)
        (Sketch.fieldsAwaited still) ∧
      (∀ supply, Supplies supply later →
        Sketch.settleFields supply still = Sketch.settleFields supply options) ∧
      PendingOptions.poll loader options = (later, Resolution.ofPending still) :=
  ⟨(Sketch.pollFields loader options).1, (Sketch.pollFields loader options).2,
    Sketch.pollFields_narrows loader options,
    fun _ supplies => Sketch.settleFields_pollFields loader options supplies, rfl⟩

/-- Options that are awaited stay open, or close all of their places and come to
what they settled to from the start. -/
theorem await_spec (turns : List (List Loader.Happening)) (options : PendingOptions)
    (loader : Loader) {helpers : List String}
    (serves : Serves loader helpers (Sketch.fieldsAwaited options)) :
    loader.Precedes (options.await loader turns).1 ∧
      ((∃ still, (options.await loader turns).2 = .ok (.pending still)) ∨
        (∀ name ∈ helpers, (options.await loader turns).1.hasSettled name = true) ∧
        ∀ supply, Supplies supply (options.await loader turns).1 →
          (options.await loader turns).2 =
            (Sketch.settleFields supply options).map .ready) := by
  induction turns generalizing options loader with
  | nil => exact ⟨Loader.Precedes.refl loader, .inl ⟨options, rfl⟩⟩
  | cons happenings turns ih =>
    have happened := Loader.foldl_after_precedes happenings loader
    obtain ⟨later, still, narrows, kept, polled⟩ :=
      poll_eq (happenings.foldl Loader.after loader) options
    have precedes := happened.trans narrows.precedes
    have served := (serves.of_precedes happened).of_narrows narrows
    rw [await, polled, Resolution.ofPending_eq (fun _ => none)]
    by_cases closed : Sketch.fieldsAwaited still = []
    · -- everything is closed: the turns that are left are not needed
      have every : ∀ name ∈ helpers, later.hasSettled name = true := by
        intro name called
        rcases served.settled name called with waits | settled
        · rw [closed] at waits
          cases waits
        · exact settled
      have comes : ∀ supply, Supplies supply later →
          Sketch.settleFields (fun _ => none) still = Sketch.settleFields supply options := by
        intro supply supplies
        rw [← kept supply supplies, ← Sketch.finish_eq_settleFields still closed,
          ← Sketch.finish_eq_settleFields still closed]
      rw [if_pos closed]
      cases outcome : Sketch.settleFields (fun _ => none) still
      all_goals
        refine ⟨precedes, .inr ⟨every, fun supply supplies => ?_⟩⟩
        rw [← comes supply supplies, outcome]
        rfl
    · -- what is still open goes on to the next turn, and comes to the same
      rw [if_neg closed]
      obtain ⟨more, outcome⟩ := ih still later served
      refine ⟨precedes.trans more, outcome.imp id ?_⟩
      rintro ⟨every, comes⟩
      refine ⟨every, ?_⟩
      intro supply supplies
      rw [comes supply supplies, kept supply (supplies.of_precedes more)]

end PendingOptions

/-! ## The same result at once -/

/-- Once a template was sketched and its helpers have settled, resolving it again
where they stood as they settled gives at once what the first sketch comes to. -/
theorem Template.resolve_of_stands {source : HelperSource} {scope : Scope}
    {loader asked settled : Loader} {options : Fields Template} {waiting : PendingOptions}
    {supply : String → Option Helper}
    (sketched : Sketch.ofFields source scope loader options = (asked, .ok waiting))
    (supplies : Supplies supply asked)
    (stands : Sketch.Stands supply settled (Template.fieldHelpers options)) :
    Template.resolve source scope settled options =
      (settled, (Sketch.settleFields supply waiting).map .ready) := by
  rw [Template.resolve]
  rcases (Sketch.ofFields_repeats sketched supplies stands).cases with
    ⟨error, outcome, repeated⟩ | ⟨done, values, outcome, repeated, closed, comes⟩
  · rw [outcome, repeated]
    rfl
  · rw [repeated]
    show (settled, Resolution.ofPending done) = _
    rw [Resolution.ofPending_eq supply, if_pos closed, comes, outcome]

/-- A helper that was asked for and has settled stands in the completed loader as it
settled. -/
theorem Loader.arrival?_completed_of_hasSettled {asked later : Loader} {name : String}
    (wasAsked : (asked.arrival? name).isSome) (settled : later.hasSettled name = true) :
    (asked.completed later).arrival? name = later.arrival? name := by
  obtain ⟨early, asks⟩ := Option.isSome_iff_exists.mp wasAsked
  rw [Loader.arrival?_completed, asks, Option.map_some]
  cases here : later.arrival? name with
  | none => rw [Loader.hasSettled, here] at settled; cases settled
  | some => rfl

/-- Helpers that have settled stand as the loader delivered them. -/
theorem stands_delivered? {later : Loader} {helpers : List String}
    (every : ∀ name ∈ helpers, later.hasSettled name = true) :
    Sketch.Stands later.delivered? later helpers := by
  intro name called
  have settled := every name called
  cases here : later.arrival? name with
  | none => rw [Loader.hasSettled, here] at settled; cases settled
  | some arrival =>
    rw [Loader.hasSettled_of_arrival? here] at settled
    rw [supplies_delivered? later name arrival here settled]

/-- **Waiting changes nothing.**  Resolving never reports an open place.  Options
that it leaves waiting, however often they are polled and whatever happens to the
loader in between, are still pending or come to what resolving the template at the
same data gives where every helper stands as it settled; this is also what writing
the results of their calls back gives, and never the report of an open place. -/
theorem await_eq_resolve_completed (source : HelperSource) (scope : Scope)
    (loader : Loader) (options : Fields Template) :
    (∀ field, (Template.resolve source scope loader options).2 ≠
        .error (.unresolved field)) ∧
      ∀ asked waiting,
        Template.resolve source scope loader options = (asked, .ok (.pending waiting)) →
        ∀ turns later outcome, waiting.await asked turns = (later, outcome) →
          (∃ still, outcome = .ok (.pending still)) ∨
            (∀ name ∈ Template.fieldHelpers options,
                (asked.completed later).hasSettled name = true ∧
                (asked.completed later).arrival? name = later.arrival? name) ∧
              outcome = (Template.resolve source scope (asked.completed later) options).2 ∧
              outcome = (waiting.complete later.delivered?).map .ready ∧
              ∀ field, outcome ≠ .error (.unresolved field) := by
  refine ⟨Template.resolve_ne_unresolved source scope loader options, ?_⟩
  intro asked waiting resolved turns later outcome awaited
  obtain ⟨sketched, -⟩ := Template.sketch_of_resolve resolved
  have fits := Sketch.ofFields_fits sketched
  obtain ⟨precedes, result⟩ := PendingOptions.await_spec turns waiting asked fits.serves
  rw [awaited] at precedes result
  refine result.imp id ?_
  rintro ⟨every, comes⟩
  have supplies := supplies_delivered? later
  have value := comes later.delivered? supplies
  have same : ∀ name ∈ Template.fieldHelpers options,
      (asked.completed later).arrival? name = later.arrival? name := fun name called =>
    Loader.arrival?_completed_of_hasSettled (fits.serves.isSome_arrival? name called)
      (every name called)
  have stands : Sketch.Stands later.delivered? (asked.completed later)
      (Template.fieldHelpers options) := fun name called =>
    (same name called).trans (stands_delivered? every name called)
  have again := Template.resolve_of_stands sketched (supplies.of_precedes precedes) stands
  have resolvedAgain :
      outcome = (Template.resolve source scope (asked.completed later) options).2 := by
    rw [again]
    exact value
  refine ⟨?_, resolvedAgain, ?_, ?_⟩
  · intro name called
    rw [Loader.hasSettled, same name called]
    exact ⟨every name called, rfl⟩
  · rw [PendingOptions.complete_eq_settleFields _ _ (Sketch.ofFields_isIntact sketched)]
    exact value
  · intro field
    rw [resolvedAgain]
    exact Template.resolve_ne_unresolved source scope _ options field

/-! ## A call inside an array -/

namespace NestedCall

/-- A source with one helper, which is on its way. -/
def source : HelperSource := fun name => if name = "ease" then .later none else .missing

/-- The helper that comes in the end: it gives back its first argument. -/
def firstArgument : Helper := fun arguments => arguments.headD .undefined

/-- Options with a call inside an array. -/
def options : Fields Template :=
  [("x", .array [.literal .null, .invoke ⟨"ease", "speed"⟩]), ("y", .literal .null)]

/-- What its options read. -/
def scope : Scope := [[("speed", .bool true)]]

/-- The loader that awaits the helper. -/
def asked : Loader := ⟨[("ease", .awaited)], ["ease"]⟩

/-- The loader to which the helper has come. -/
def later : Loader := ⟨[("ease", .ready firstArgument)], ["ease"]⟩

/-- The options with the open place in them. -/
def waiting : PendingOptions :=
  [("x", .array [.known .null, .waiting ⟨"ease", [.bool true]⟩]), ("y", .known .null)]

/-- What the options come to. -/
def values : Fields Value := [("x", .array [.null, .bool true]), ("y", .null)]

end NestedCall

open NestedCall in
/-- A poll before the delivery leaves the place open, and the one after it gives what
resolving gives where the helper is there. -/
theorem nestedCall_resolved_later :
    Template.resolve source scope Loader.empty options = (asked, .ok (.pending waiting)) ∧
      waiting.await asked [[], [.delivered "ease" (some firstArgument)]] =
        (later, .ok (.ready values)) ∧
      .ok (.ready values) = (Template.resolve source scope (asked.completed later) options).2 := by
  have first : Template.resolve source scope Loader.empty options =
      (asked, .ok (.pending waiting)) := rfl
  have awaited : waiting.await asked [[], [.delivered "ease" (some firstArgument)]] =
      (later, .ok (.ready values)) := rfl
  refine ⟨first, awaited, ?_⟩
  rcases (await_eq_resolve_completed source scope Loader.empty options).2 _ _ first _ _ _
    awaited with ⟨still, pending⟩ | ⟨-, resolved, -⟩
  · cases pending
  · exact resolved

end Choreography
