import Choreography.Animation
import Choreography.Value

/-!
# Outlines of compiled directives

What a directive compiles to, written as JSON data.  What is left open in an
option is written as a string that shows the reference or the call.
-/

namespace Choreography

/-- A reference in an outline. -/
def Reference.outline (reference : Reference) : Json :=
  .string s!"$ref({reference.source})"

/-- A call in an outline. -/
def Call.outline (call : Call) : Json :=
  .string s!"$call({call.helper}: {call.arguments})"

namespace Template

mutual

/-- A template as JSON data. -/
def outline : Template → Json
  | .literal value => value.toJson
  | .array items => .array (outlineItems items)
  | .object fields => .object (Fields.ofList (outlineFields fields))
  | .lookup reference => reference.outline
  | .invoke call => call.outline
termination_by structural template => template

/-- The items of an array as JSON data. -/
def outlineItems : List Template → List Json
  | [] => []
  | item :: rest => item.outline :: outlineItems rest
termination_by structural items => items

/-- The fields of an object as JSON data. -/
def outlineFields : List (String × Template) → List (String × Json)
  | [] => []
  | (name, template) :: rest => (name, template.outline) :: outlineFields rest
termination_by structural fields => fields

end

end Template

/-- An animation as JSON data: its options are one object each. -/
def Animation.outline (animation : Animation) : Json :=
  .object
    [("name", Json.ofOption (animation.name.map .string)),
      ("triggers", Json.ofStrings (animation.triggers.toList.map Trigger.name)),
      ("options", .array (animation.options.map fun (name, template) =>
        .object [(name, template.outline)]))]

/-- What a directive compiles to without any data, as JSON data. -/
def Directive.outline (start : String) (directive : Directive) : Json :=
  let compiled := directive.compile [] ⟨0⟩ (directive.label start)
  .object
    [("animations", .array (compiled.result.map Animation.outline)),
      ("diagnostics", Json.ofStrings (compiled.diagnostics.map Diagnostic.text))]

end Choreography
