import Choreography.Json.Decoder
import Choreography.Trigger

/-!
# Settings of a stage

How directives are recognised, which way progress is bound to scrolling when
nothing is said, and whether entering the view plays an animation only once.
-/

namespace Choreography

/-- The settings of a stage. -/
structure Settings where
  /-- What the names of directive attributes start with. -/
  directiveStart : String
  /-- The scroll axis for options that name none. -/
  scrollAxis : ScrollAxis
  /-- Whether only the first entry into view plays an animation. -/
  inViewOnce : Bool
deriving DecidableEq, Repr

namespace Settings

/-- The settings that hold when none are given. -/
def standard : Settings := ⟨"x-motion", .y, true⟩

instance : Inhabited Settings := ⟨standard⟩

/-- Settings as JSON data. -/
def toJson (settings : Settings) : Json :=
  .object
    [("directive_prefix", .string settings.directiveStart),
      ("default_scroll_axis", .string settings.scrollAxis.name),
      ("in_view_once", .bool settings.inViewOnce)]

end Settings

namespace Decoder

open Json

/-- An axis: its letter, or an object that gives null to its letter. -/
def axis : Json.Decoder ScrollAxis := fun depth document =>
  let ofName (name : String) : Option ScrollAxis :=
    if name = "x" then some .x else if name = "y" then some .y else none
  match document with
  | .string (some name) => ofName name
  | _ =>
    match Json.Decoder.variant depth document with
    | some (_, name, .null) => ofName name
    | _ => none

/-- Settings; those that are missing have their standard values. -/
def settings : Json.Decoder Settings := fun depth document => do
  let fields ← Json.Decoder.record
    ["directive_prefix", "default_scroll_axis", "in_view_once"] depth document
  let start ← Json.Decoder.defaulted fields "directive_prefix"
    Settings.standard.directiveStart Json.Decoder.string
  let axis ← Json.Decoder.defaulted fields "default_scroll_axis"
    Settings.standard.scrollAxis axis
  let once ← Json.Decoder.defaulted fields "in_view_once"
    Settings.standard.inViewOnce Json.Decoder.bool
  some ⟨start, axis, once⟩

end Decoder

end Choreography
