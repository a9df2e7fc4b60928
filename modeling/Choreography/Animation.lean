import Choreography.Directive
import Choreography.Expression
import Choreography.Identity
import Choreography.Modifier
import Choreography.Trigger

/-!
# Animations

A directive on an element gives one animation, or one for each name in its
expression.  The fields of the modifiers come first; a field of the expression
replaces one of the same name where it stands.  Triggers apply to every
animation of the directive.
-/

namespace Choreography

/-- A compiled animation of an element. -/
structure Animation where
  name : Option String
  element : ElementId
  options : Fields Template
  triggers : TriggerSet
deriving Repr, Inhabited

namespace Animation

/-- The distinct references in the options, in order. -/
def references (animation : Animation) : List Reference :=
  (Template.fieldReferences animation.options).eraseDups

/-- The helper calls in the options, in order. -/
def calls (animation : Animation) : List Call :=
  Template.fieldCalls animation.options

/-- The label that diagnostics show. -/
def label (animation : Animation) : String :=
  match animation.name with
  | some name => s!"'{name}'@{animation.element.text}"
  | none => s!"<无名>@{animation.element.text}"

end Animation

namespace Directive

/-- The note that the value of a directive has no use. -/
def valueIgnored (label value : String) : Diagnostic :=
  ⟨.info, label, s!"表达式已给出动画名，忽略指令值 '{value}'", none⟩

/-- The animations of a directive on an element, and the diagnostics of its
text. -/
def compile (scope : Scope) (element : ElementId) (label : String)
    (directive : Directive) : Expression.Compiled (List Animation) :=
  let (triggers, modifiers) := TriggerSet.extract directive.modifiers
  let shared := Modifier.entries modifiers
  let compiled := Expression.compile scope label directive.expression.toList
  let animation (name : Option String) (options : Fields Template) : Animation :=
    ⟨name, element, Fields.putAll shared options, triggers⟩
  match compiled.result with
  | .bare options => ⟨[animation directive.value options], compiled.diagnostics⟩
  | .named animations =>
    ⟨animations.map fun (name, options) => animation (some name) options,
      compiled.diagnostics ++ directive.value.toList.map (valueIgnored label)⟩

end Directive

end Choreography
