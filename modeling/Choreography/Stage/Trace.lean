import Choreography.Stage.Basic

/-!
# The trace of a stage

What an engine was asked to do, written as JSON data, one object for each
request.  A request to follow the scroll position is answered at once with the
progress at both ends.
-/

namespace Choreography

namespace ScrollLink

/-- A value that may be absent as JSON data. -/
def placeToJson (place : Option Value) : Json :=
  Json.ofOption (place.map Value.toJson)

/-- The progress that is reported to whoever follows the scroll position. -/
def samples : List Number := [Number.zero, Number.ofNat 1]

end ScrollLink

namespace Event

/-- A request to the engine with its kind, as JSON data. -/
def request (kind : String) (members : List (String × Json)) : Json :=
  .object (("kind", .string kind) :: members)

/-- What an event asks of the engine, as JSON data. -/
def trace? : Event → Option Json
  | .animated _ handle element options =>
    some (request "animate"
      [("handle", .ofNat handle.number), ("element", .ofNat element.number),
        ("options", Value.fieldsToJson options)])
  | .sequenced handle steps options =>
    some (request "timeline"
      [("handle", .ofNat handle.number),
        ("steps", .array (steps.map TimelineStep.toJson)),
        ("options", Value.fieldsToJson options)])
  | .linkedScroll _ handle link =>
    some (request "link_scroll"
      [("handle", .ofNat handle.number),
        ("target", ScrollLink.placeToJson link.target),
        ("container", ScrollLink.placeToJson link.container),
        ("axis", .string link.axis.name)])
  | .followedScroll link =>
    some (request "scroll_progress"
      [("axis", .string link.axis.name),
        ("samples", .array (ScrollLink.samples.map .double))])
  | .observed _ element =>
    some (request "observe_in_view" [("element", .ofNat element.number)])
  | .unobserved _ element =>
    some (request "unobserve_in_view" [("element", .ofNat element.number)])
  | _ => none

/-- What an event writes to the log of an engine that reports its requests. -/
def tracedLine? : Event → Option (Level × String)
  | .animated .. => some (.info, "animate")
  | .sequenced .. => some (.info, "timeline")
  | .linkedScroll .. => some (.info, "link_scroll")
  | event => event.logLine?

end Event

end Choreography
