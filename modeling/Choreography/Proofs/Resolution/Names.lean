import Choreography.Fields
import Choreography.Resolution

/-!
# The names of resolved options

A template, its sketch and its values have the same fields: sketching, polling and finishing
change what the fields hold, and neither their names nor their order.  **What comes of resolving
options has the names of the options** (`Template.names_of_resolve`, `PendingOptions.names_of_poll`),
so distinct names stay distinct.
-/

namespace Choreography

namespace Sketch

theorem keys_ofFields {source : HelperSource} {scope : Scope} {loader : Loader}
    {fields : List (String × Template)} {sketches : List (String × Sketch)}
    (sketched : (ofFields source scope loader fields).2 = .ok sketches) :
    Fields.keys sketches = Fields.keys fields := by
  induction fields generalizing loader sketches with
  | nil =>
    cases sketched
    rfl
  | cons field rest ih =>
    obtain ⟨name, template⟩ := field
    rw [ofFields] at sketched
    split at sketched
    · cases sketched
    · split at sketched
      · rename_i others
        cases sketched
        rw [Fields.keys_cons, Fields.keys_cons, ih (congrArg Prod.snd others)]
      · cases sketched

theorem keys_pollFields (loader : Loader) (fields : List (String × Sketch)) :
    Fields.keys (pollFields loader fields).2 = Fields.keys fields := by
  induction fields generalizing loader with
  | nil => rfl
  | cons field rest ih =>
    obtain ⟨name, sketch⟩ := field
    rw [Fields.keys_cons, ← ih (sketch.poll loader).1]
    rfl

end Sketch

theorem PendingOptions.keys_finish {options : List (String × Sketch)} {values : Fields Value}
    (finished : finish options = .ok values) : Fields.keys values = Fields.keys options := by
  induction options generalizing values with
  | nil =>
    cases finished
    rfl
  | cons field rest ih =>
    obtain ⟨name, sketch⟩ := field
    rw [finish] at finished
    cases one : sketch.finish name with
    | error error =>
      rw [one] at finished
      cases finished
    | ok value =>
      rw [one] at finished
      cases others : finish rest with
      | error error =>
        rw [others] at finished
        cases finished
      | ok found =>
        rw [others] at finished
        cases finished
        rw [Fields.keys_cons, Fields.keys_cons, ih others]

namespace Resolution

/-- The names of the options, in order. -/
def names : Resolution → List String
  | .ready options => Fields.keys options
  | .pending options => Fields.keys options

theorem names_of_ofPending {options : PendingOptions} {resolution : Resolution}
    (comes : ofPending options = .ok resolution) : resolution.names = Fields.keys options := by
  rw [ofPending] at comes
  split at comes
  · cases comes
    rfl
  · cases finished : PendingOptions.finish options with
    | error error =>
      rw [finished] at comes
      cases comes
    | ok values =>
      rw [finished] at comes
      cases comes
      exact PendingOptions.keys_finish finished

end Resolution

/-- **What comes of resolving a template** has the names of its options. -/
theorem Template.names_of_resolve {source : HelperSource} {scope : Scope} {loader : Loader}
    {options : Fields Template} {resolution : Resolution}
    (comes : (resolve source scope loader options).2 = .ok resolution) :
    resolution.names = Fields.keys options := by
  rw [resolve] at comes
  split at comes
  · rename_i sketched
    rw [Resolution.names_of_ofPending comes, Sketch.keys_ofFields (congrArg Prod.snd sketched)]
  · cases comes

/-- **What comes of a poll** has the names of the options that wait. -/
theorem PendingOptions.names_of_poll {loader : Loader} {options : PendingOptions}
    {resolution : Resolution} (comes : (options.poll loader).2 = .ok resolution) :
    resolution.names = Fields.keys options :=
  (Resolution.names_of_ofPending comes).trans (Sketch.keys_pollFields loader options)

end Choreography
