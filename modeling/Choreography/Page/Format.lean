import Choreography.Json.Decoder
import Choreography.Page.Basic

/-!
# The JSON form of pages

A page is an object with data, elements and a script; only the elements are
required.  A step of the script is an object with one member, whose key says what
happens.  `Page.read` takes a page from a text and checks it; `Page.toJson` gives
the form in which every field is written.
-/

namespace Choreography

namespace Decoder

open Json

/-- An element id. -/
def elementId : Json.Decoder ElementId := fun depth document =>
  (Json.Decoder.identity depth document).map ElementId.mk

/-- An attribute; its value may be left out. -/
def pageAttribute : Json.Decoder Attribute := fun depth document => do
  let fields ← Json.Decoder.record ["name", "value"] depth document
  let name ← Json.Decoder.required fields "name" Json.Decoder.string
  let value ← Json.Decoder.defaulted fields "value" "" Json.Decoder.string
  some ⟨name, value⟩

/-- An element of a page; only its id is required. -/
def pageElement : Json.Decoder PageElement := fun depth document => do
  let fields ← Json.Decoder.record ["id", "attributes", "data"] depth document
  let id ← Json.Decoder.required fields "id" elementId
  let attributes ← Json.Decoder.defaulted fields "attributes" []
    (Json.Decoder.list pageAttribute)
  let data ← Json.Decoder.defaulted fields "data" [] Json.Decoder.jsonFields
  some ⟨id, attributes, data⟩

/-- What is written under `set`. -/
def setStep : Json.Decoder ScriptStep := fun depth document => do
  let fields ← Json.Decoder.record ["element", "field", "value"] depth document
  let element ← Json.Decoder.defaulted fields "element" none
    (Json.Decoder.optional elementId)
  let field ← Json.Decoder.required fields "field" Json.Decoder.string
  let value ← Json.Decoder.required fields "value" Json.Decoder.json
  some (.set element field value)

/-- What is written under `tick`; without a count it is one tick. -/
def tickStep : Json.Decoder ScriptStep := fun depth document => do
  let fields ← Json.Decoder.record ["count"] depth document
  let count ← Json.Decoder.defaulted fields "count" 1 Json.Decoder.count
  some (.tick count)

/-- What is written under `lookup`. -/
def lookupStep : Json.Decoder ScriptStep := fun depth document => do
  let fields ← Json.Decoder.record ["name"] depth document
  let name ← Json.Decoder.required fields "name" Json.Decoder.string
  some (.lookup name)

/-- What is written under `sequence`. -/
def sequenceStep : Json.Decoder ScriptStep := fun depth document => do
  let fields ← Json.Decoder.record ["names", "options"] depth document
  let names ← Json.Decoder.required fields "names"
    (Json.Decoder.list Json.Decoder.string)
  let options ← Json.Decoder.defaulted fields "options" [] Json.Decoder.jsonFields
  some (.sequence names options)

/-- What is written for a step that only speaks of an element. -/
def elementStep (step : ElementId → ScriptStep) : Json.Decoder ScriptStep :=
  fun depth document => do
    let fields ← Json.Decoder.record ["element"] depth document
    let element ← Json.Decoder.required fields "element" elementId
    some (step element)

/-- The decoder of what is written under the key of a step. -/
def stepOfKey? (key : String) : Option (Json.Decoder ScriptStep) :=
  if key = "set" then some setStep
  else if key = "enter_view" then some (elementStep .enterView)
  else if key = "tick" then some tickStep
  else if key = "lookup" then some lookupStep
  else if key = "sequence" then some sequenceStep
  else if key = "teardown" then some (elementStep .teardown)
  else none

/-- A step of a script. -/
def scriptStep : Json.Decoder ScriptStep := fun depth document => do
  let (depth, key, content) ← Json.Decoder.variant depth document
  let step ← stepOfKey? key
  step depth content

/-- A page, not checked yet. -/
def page : Json.Decoder Page := fun depth document => do
  let fields ← Json.Decoder.record ["data", "elements", "script"] depth document
  let data ← Json.Decoder.defaulted fields "data" [] Json.Decoder.jsonFields
  let elements ← Json.Decoder.required fields "elements"
    (Json.Decoder.list pageElement)
  let script ← Json.Decoder.defaulted fields "script" []
    (Json.Decoder.list scriptStep)
  some ⟨data, elements, script⟩

end Decoder

/-- The page that a text describes. -/
def Page.read (text : String) : Except PageError Page :=
  match Json.Decoder.fromText Decoder.page text with
  | none => .error .malformed
  | some page =>
    match page.fault? with
    | some error => .error error
    | none => .ok page

/-! ## Writing -/

/-- An attribute as JSON data. -/
def Attribute.toJson (attr : Attribute) : Json :=
  .object [("name", .string attr.name), ("value", .string attr.value)]

/-- An element as JSON data. -/
def PageElement.toJson (element : PageElement) : Json :=
  .object
    [("id", .ofNat element.id.number),
      ("attributes", .array (element.attributes.map Attribute.toJson)),
      ("data", .object element.data)]

/-- A step as JSON data. -/
def ScriptStep.toJson (step : ScriptStep) : Json :=
  let elementOnly (element : ElementId) : Json :=
    .object [("element", .ofNat element.number)]
  match step with
  | .set element field value =>
    let element := Json.ofOption (element.map fun id => .ofNat id.number)
    .object [("set", .object
      [("element", element), ("field", .string field), ("value", value)])]
  | .enterView element => .object [("enter_view", elementOnly element)]
  | .tick count => .object [("tick", .object [("count", .ofNat count)])]
  | .lookup name => .object [("lookup", .object [("name", .string name)])]
  | .sequence names options =>
    .object [("sequence", .object
      [("names", Json.ofStrings names), ("options", .object options)])]
  | .teardown element => .object [("teardown", elementOnly element)]

/-- A page as JSON data. -/
def Page.toJson (page : Page) : Json :=
  .object
    [("data", .object page.data),
      ("elements", .array (page.elements.map PageElement.toJson)),
      ("script", .array (page.script.map ScriptStep.toJson))]

/-- A page that was read has distinct ids, and its script speaks only of them. -/
theorem Page.fault?_of_read {text : String} {page : Page}
    (accepted : Page.read text = .ok page) : page.fault? = none := by
  unfold Page.read at accepted
  split at accepted
  · simp at accepted
  · rename_i decoded found
    split at accepted
    · simp at accepted
    · rename_i sound
      cases accepted
      exact sound

end Choreography
