import Choreography.Notice
import Choreography.Text

/-!
# Triggers

Two modifiers say when an animation is played: `in-view` waits until the element
enters the view, and `scroll` binds the animation's progress to a scroll
position.  Three fields of the resolved options describe that position; they are
taken out of the options before an engine sees them.
-/

namespace Choreography

/-- What makes an animation play. -/
inductive Trigger where
  | visible
  | scroll
deriving DecidableEq, Repr

namespace Trigger

/-- The trigger that a modifier names. -/
def ofModifier? (modifier : String) : Option Trigger :=
  if modifier = "in-view" then some .visible
  else if modifier = "scroll" then some .scroll
  else none

/-- The name of a trigger in reports. -/
def name : Trigger → String
  | .visible => "Visible"
  | .scroll => "Scroll"

end Trigger

/-- A set of triggers. -/
structure TriggerSet where
  visible : Bool
  scroll : Bool
deriving DecidableEq, Repr, Inhabited

namespace TriggerSet

/-- No trigger. -/
def empty : TriggerSet := ⟨false, false⟩

/-- The set with one more trigger. -/
def insert (triggers : TriggerSet) : Trigger → TriggerSet
  | .visible => { triggers with visible := true }
  | .scroll => { triggers with scroll := true }

/-- Whether a trigger is in the set. -/
def contains (triggers : TriggerSet) : Trigger → Bool
  | .visible => triggers.visible
  | .scroll => triggers.scroll

/-- Whether there is no trigger in the set. -/
def isEmpty (triggers : TriggerSet) : Bool := !triggers.visible && !triggers.scroll

/-- The triggers of the set; being visible comes before scrolling. -/
def toList (triggers : TriggerSet) : List Trigger :=
  [Trigger.visible, Trigger.scroll].filter triggers.contains

/-- The set of the triggers in a list. -/
def ofList (triggers : List Trigger) : TriggerSet := triggers.foldl insert empty

/-- The triggers that a list of modifiers names, and the other modifiers. -/
def extract (modifiers : List String) : TriggerSet × List String :=
  (ofList (modifiers.filterMap Trigger.ofModifier?),
    modifiers.filter fun modifier => (Trigger.ofModifier? modifier).isNone)

@[simp] theorem ofList_toList (triggers : TriggerSet) :
    ofList triggers.toList = triggers := by
  obtain ⟨visible, scroll⟩ := triggers
  cases visible <;> cases scroll <;> rfl

end TriggerSet

/-- The direction of a scroll position. -/
inductive ScrollAxis where
  | x
  | y
deriving DecidableEq, Repr, Inhabited

namespace ScrollAxis

/-- The letter of an axis. -/
def name : ScrollAxis → String
  | .x => "x"
  | .y => "y"

/-- The axis that a text names, in ASCII letters of any case. -/
def parse? (text : String) : Option ScrollAxis :=
  let text := Text.lowerAscii text
  if text = "x" ∨ text = "horizontal" then some .x
  else if text = "y" ∨ text = "vertical" then some .y
  else none

end ScrollAxis

/-- A scroll position that progress is bound to.  What is absent is for the
engine to choose. -/
structure ScrollLink where
  target : Option Value
  container : Option Value
  axis : ScrollAxis
deriving Repr, Inhabited

namespace ScrollLink

/-- The field that holds the scrolled target. -/
def targetField : String := "scrollTarget"

/-- The field that holds the scroll container. -/
def containerField : String := "scrollContainer"

/-- The field that holds the scroll axis. -/
def axisField : String := "scrollAxis"

/-- Whether a field describes a scroll position. -/
def isLinkField (name : String) : Bool :=
  name == targetField || name == containerField || name == axisField

/-- The axis that a value names. -/
def axisOf? (value : Value) : Option ScrollAxis :=
  value.string?.bind ScrollAxis.parse?

/-- The link with one more field taken into account. -/
def take (link : ScrollLink) (field : String × Value) : ScrollLink :=
  if field.1 = targetField then { link with target := some field.2 }
  else if field.1 = containerField then { link with container := some field.2 }
  else if field.1 = axisField then
    { link with axis := (axisOf? field.2).getD link.axis }
  else link

/-- The link that a list of fields describes, with an axis for when they name
none. -/
def ofFields (axis : ScrollAxis) (fields : List (String × Value)) : ScrollLink :=
  fields.foldl take ⟨none, none, axis⟩

/-- The fields that do not describe a scroll position. -/
def otherFields (fields : List (String × Value)) : Fields Value :=
  fields.filter fun field => !isLinkField field.1

/-- The notices of values that are given for the axis and name none. -/
def notices (fields : List (String × Value)) : List Notice :=
  (fields.filter fun field =>
    field.1 == axisField && (axisOf? field.2).isNone).map fun field =>
      .axisUnknown field.2

end ScrollLink

end Choreography
