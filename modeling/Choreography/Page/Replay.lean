import Choreography.Helper.Catalogue
import Choreography.Page.Basic
import Choreography.Stage.Input

/-!
# Replaying pages

A page is replayed on a stage of its own.  The data of the page make one frame,
those of each element another, and a directive sees the frame of its element
before that of the page.  The directives are applied in the order of the page,
the script is played, and what still waits for helpers then gets a limited number
of ticks.

A write tells only those who read what was written: a write to an element its own
bindings, and a write to the page the bindings of every element that does not
hide the field.
-/

namespace Choreography.Page

/-- The frame that holds the data of the page itself. -/
def pageFrame : FrameId := 0

/-- The frame that holds the data of an element. -/
def frameOf? (page : Page) (id : ElementId) : Option FrameId :=
  (page.elements.findIdx? fun element => element.id = id).map (· + 1)

/-- The frames of a page: its own, then those of its elements. -/
def store (page : Page) : Store :=
  Value.ofJsonMembers page.data ::
    page.elements.map fun element => Value.ofJsonMembers element.data

/-- The frames that the directives of an element see. -/
def chainOf (page : Page) (id : ElementId) : Chain :=
  (page.frameOf? id).toList ++ [pageFrame]

/-- The stage of a page before any directive is applied.  Its helpers take a
number of ticks to arrive. -/
def stage (page : Page) (settings : Settings) (latency : Nat) : Stage :=
  Stage.new settings page.store (Helper.builtinSource latency)

/-- An attribute of an element is applied if it is a directive. -/
def applyAttribute (chain : Chain) (id : ElementId) (stage : Stage)
    (attr : Attribute) : Stage :=
  match Directive.ofAttribute? stage.settings.directiveStart attr.name attr.value with
  | some directive => (stage.apply id directive chain).1
  | none => stage

/-- The attributes of an element are applied in their order. -/
def applyElement (page : Page) (stage : Stage) (element : PageElement) : Stage :=
  element.attributes.foldl (applyAttribute (page.chainOf element.id) element.id) stage

/-- The elements of a page are put on the stage in their order. -/
def mount (page : Page) (stage : Stage) : Stage :=
  page.elements.foldl page.applyElement stage

/-- Whether the data of an element have a field. -/
def hides (page : Page) (data : Store) (id : ElementId) (field : String) : Bool :=
  (page.frameOf? id).any fun frame => Fields.has (data.frame frame) field

/-- Whether the owner of a subscription reads a field from where it has just been
written: the given element, or the page. -/
def seesWrite (page : Page) (stage : Stage) (written : Option ElementId)
    (field : String) (subscription : SubscriptionId) : Bool :=
  match stage.subscriptionElement? subscription, written with
  | none, _ => false
  | some owner, some element => owner = element
  | some owner, none => !page.hides stage.data owner field

/-- A field is written, and everyone who reads it is told, once for each
subscription and in their order. -/
def set (page : Page) (stage : Stage) (written : Option ElementId) (field : String)
    (value : Json) : Stage :=
  let frame := (written.bind page.frameOf?).getD pageFrame
  let stage := stage.write frame field (Value.ofJson value)
  let told := (stage.listenersOf field).filter (page.seesWrite stage written field)
  told.foldl (fun stage subscription => stage.handle (.sourceChanged subscription)) stage

/-- One step of the script happens. -/
def step (page : Page) (stage : Stage) : ScriptStep → Stage
  | .set element field value => page.set stage element field value
  | .enterView element => stage.handle (.enteredView element)
  | .tick count => stage.ticks count
  | .lookup name => (stage.lookup name).1
  | .sequence names options => (stage.sequence names (Value.ofJsonMembers options)).1
  | .teardown element => stage.handle (.teardown element)

/-- A script is played on a stage. -/
def play (page : Page) (stage : Stage) (script : List ScriptStep) : Stage :=
  script.foldl page.step stage

/-- The stage once the directives are applied and the script has been played. -/
def played (page : Page) (settings : Settings) (latency : Nat) : Stage :=
  page.play (page.mount (page.stage settings latency)) page.script

/-- The stage after a replay: what waits after the script is ticked on until
nothing waits, at most `limit` times. -/
def replay (page : Page) (settings : Settings) (latency limit : Nat) : Stage :=
  (page.played settings latency).ticks limit

end Choreography.Page
