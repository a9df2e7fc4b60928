import Choreography.Json.Decoder
import Choreography.Stage.Input

/-!
# The JSON form of directives and host events

A directive is an object of which every field may be left out.  An event is an
object with one member: its key says what happened, and its value is the number
of the subscription or of the element.
-/

namespace Choreography

namespace Decoder

open Json

/-- A directive. -/
def directive : Json.Decoder Directive := fun depth document => do
  let fields ← Json.Decoder.record ["value", "modifiers", "expression"] depth document
  let value ← Json.Decoder.defaulted fields "value" none
    (Json.Decoder.optional Json.Decoder.string)
  let modifiers ← Json.Decoder.defaulted fields "modifiers" []
    (Json.Decoder.list Json.Decoder.string)
  let expression ← Json.Decoder.defaulted fields "expression" "" Json.Decoder.string
  some ⟨value, modifiers, expression⟩

/-- The event that a key and a number stand for. -/
def inputOf? (key : String) (number : Nat) : Option Input :=
  if key = "SourceChanged" then some (.sourceChanged ⟨number⟩)
  else if key = "EnteredView" then some (.enteredView ⟨number⟩)
  else if key = "Teardown" then some (.teardown ⟨number⟩)
  else none

/-- An event that the host reports. -/
def input : Json.Decoder Input := fun depth document => do
  let (depth, key, content) ← Json.Decoder.variant depth document
  let number ← Json.Decoder.identity depth content
  inputOf? key number

/-- A value; numbers lose whether they were written as an integer. -/
def value : Json.Decoder Value := fun depth document =>
  (Json.Decoder.json depth document).map Value.ofJson

end Decoder

/-- A directive as JSON data. -/
def Directive.toJson (directive : Directive) : Json :=
  .object
    [("value", Json.ofOption (directive.value.map .string)),
      ("modifiers", Json.ofStrings directive.modifiers),
      ("expression", .string directive.expression)]

/-- An event as JSON data. -/
def Input.toJson : Input → Json
  | .sourceChanged subscription =>
    .object [("SourceChanged", .ofNat subscription.number)]
  | .enteredView element => .object [("EnteredView", .ofNat element.number)]
  | .teardown element => .object [("Teardown", .ofNat element.number)]

end Choreography
