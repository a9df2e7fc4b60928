import Choreography.Evaluation
import Choreography.Helper.Loader

/-!
# Resolution

A template becomes a value in two steps.  Sketching it looks up every reference
and evaluates the arguments of every call, at once and in order; a helper that is
here is applied, and one that is on its way leaves a place for its result.
Polling a sketch asks once for each place that is still open, in order.  When
none is open the sketch is finished; if a helper did not come, the first such
place says so.
-/

namespace Choreography

/-- Why options could not be resolved. -/
inductive ResolveError where
  | unknownHelper (name : String)
  | helperUnavailable (name : String)
  | arguments (name : String) (error : EvalError)
  /-- A place in the field is still open. -/
  | unresolved (field : String)
deriving DecidableEq, Repr

/-- The message of a resolution error. -/
def ResolveError.message : ResolveError → String
  | .unknownHelper name => s!"未知的 helper '{name}'"
  | .helperUnavailable name => s!"helper '{name}' 加载失败"
  | .arguments name error => s!"helper '{name}' 的参数求值失败: {error.message}"
  | .unresolved field => s!"字段 '{field}' 中仍有未解析的 helper 调用"

/-- Any error of directive text, its arguments or its helpers. -/
inductive DirectiveError where
  | parse (error : ParseError)
  | eval (error : EvalError)
  | resolve (error : ResolveError)
deriving DecidableEq, Repr

/-- The message of an error with its kind in front. -/
def DirectiveError.message : DirectiveError → String
  | .parse error => s!"解析错误: {error.message}"
  | .eval error => s!"求值错误: {error.message}"
  | .resolve error => s!"调用解析错误: {error.message}"

/-- A call that waits for its helper, with the values of its arguments. -/
structure WaitingCall where
  helper : String
  arguments : List Value
deriving Repr, Inhabited

/-- A value with places that wait for helpers. -/
inductive Sketch where
  | known (value : Value)
  | array (items : List Sketch)
  | object (fields : List (String × Sketch))
  | waiting (call : WaitingCall)
  /-- The helper of this place did not come. -/
  | failed (helper : String)
deriving Repr, Inhabited

/-- A new state of the loader, with a result or an error. -/
abbrev Attempt (α : Type) := Loader × Except ResolveError α

namespace Sketch

/-- The sketch of a call. -/
def ofCall (source : HelperSource) (scope : Scope) (loader : Loader) (call : Call) :
    Attempt Sketch :=
  match Arguments.evaluate scope call.arguments with
  | .error error => (loader, .error (.arguments call.helper error))
  | .ok arguments =>
    match loader.demand source call.helper with
    | (loader, some (.ready helper)) => (loader, .ok (.known (helper arguments)))
    | (loader, some .unavailable) =>
      (loader, .error (.helperUnavailable call.helper))
    | (loader, some _) => (loader, .ok (.waiting ⟨call.helper, arguments⟩))
    | (loader, none) => (loader, .error (.unknownHelper call.helper))

mutual

/-- The sketch of a template.  Helpers are asked for in order up to the first
error, and what was asked for stays asked for. -/
def ofTemplate (source : HelperSource) (scope : Scope) (loader : Loader) :
    Template → Attempt Sketch
  | .literal value => (loader, .ok (.known value))
  | .lookup reference => (loader, .ok (.known (reference.value scope)))
  | .invoke call => ofCall source scope loader call
  | .array items =>
    match ofItems source scope loader items with
    | (loader, .ok sketches) => (loader, .ok (.array sketches))
    | (loader, .error error) => (loader, .error error)
  | .object fields =>
    match ofFields source scope loader fields with
    | (loader, .ok sketches) => (loader, .ok (.object sketches))
    | (loader, .error error) => (loader, .error error)
termination_by structural template => template

/-- The sketches of a list of templates. -/
def ofItems (source : HelperSource) (scope : Scope) (loader : Loader) :
    List Template → Attempt (List Sketch)
  | [] => (loader, .ok [])
  | item :: rest =>
    match ofTemplate source scope loader item with
    | (loader, .error error) => (loader, .error error)
    | (loader, .ok sketch) =>
      match ofItems source scope loader rest with
      | (loader, .ok sketches) => (loader, .ok (sketch :: sketches))
      | (loader, .error error) => (loader, .error error)
termination_by structural items => items

/-- The sketches of a list of fields. -/
def ofFields (source : HelperSource) (scope : Scope) (loader : Loader) :
    List (String × Template) → Attempt (List (String × Sketch))
  | [] => (loader, .ok [])
  | (name, template) :: rest =>
    match ofTemplate source scope loader template with
    | (loader, .error error) => (loader, .error error)
    | (loader, .ok sketch) =>
      match ofFields source scope loader rest with
      | (loader, .ok sketches) => (loader, .ok ((name, sketch) :: sketches))
      | (loader, .error error) => (loader, .error error)
termination_by structural fields => fields

end

mutual

/-- Whether some place waits for a helper. -/
def isWaiting : Sketch → Bool
  | .known _ => false
  | .array items => itemsWait items
  | .object fields => fieldsWait fields
  | .waiting _ => true
  | .failed _ => false
termination_by structural sketch => sketch

/-- Whether some place in a list of sketches waits. -/
def itemsWait : List Sketch → Bool
  | [] => false
  | item :: rest => item.isWaiting || itemsWait rest
termination_by structural items => items

/-- Whether some place in a list of fields waits. -/
def fieldsWait : List (String × Sketch) → Bool
  | [] => false
  | (_, sketch) :: rest => sketch.isWaiting || fieldsWait rest
termination_by structural fields => fields

end

/-- One poll of a waiting call. -/
def pollCall (loader : Loader) (call : WaitingCall) : Loader × Sketch :=
  match loader.poll call.helper with
  | (loader, some (.ready helper)) => (loader, .known (helper call.arguments))
  | (loader, some .unavailable) => (loader, .failed call.helper)
  | (loader, _) => (loader, .waiting call)

mutual

/-- One poll of every place that waits, in order. -/
def poll (loader : Loader) : Sketch → Loader × Sketch
  | .known value => (loader, .known value)
  | .array items =>
    let (loader, items) := pollItems loader items
    (loader, .array items)
  | .object fields =>
    let (loader, fields) := pollFields loader fields
    (loader, .object fields)
  | .waiting call => pollCall loader call
  | .failed helper => (loader, .failed helper)
termination_by structural sketch => sketch

/-- One poll of every place that waits in a list of sketches. -/
def pollItems (loader : Loader) : List Sketch → Loader × List Sketch
  | [] => (loader, [])
  | item :: rest =>
    let (loader, item) := item.poll loader
    let (loader, rest) := pollItems loader rest
    (loader, item :: rest)
termination_by structural items => items

/-- One poll of every place that waits in a list of fields. -/
def pollFields (loader : Loader) :
    List (String × Sketch) → Loader × List (String × Sketch)
  | [] => (loader, [])
  | (name, sketch) :: rest =>
    let (loader, sketch) := sketch.poll loader
    let (loader, rest) := pollFields loader rest
    (loader, (name, sketch) :: rest)
termination_by structural fields => fields

end

mutual

/-- The value of a sketch in a field, if no place in it is open or failed; the
first place that is says why not. -/
def finish (field : String) : Sketch → Except ResolveError Value
  | .known value => .ok value
  | .array items => do
    let values ← finishItems field items
    .ok (.array values)
  | .object fields => do
    let values ← finishFields field fields
    .ok (.object values)
  | .waiting _ => .error (.unresolved field)
  | .failed helper => .error (.helperUnavailable helper)
termination_by structural sketch => sketch

/-- The values of a list of sketches in a field. -/
def finishItems (field : String) : List Sketch → Except ResolveError (List Value)
  | [] => .ok []
  | item :: rest => do
    let value ← item.finish field
    let values ← finishItems field rest
    .ok (value :: values)
termination_by structural items => items

/-- The values of the fields of an object in a field. -/
def finishFields (field : String) :
    List (String × Sketch) → Except ResolveError (List (String × Value))
  | [] => .ok []
  | (name, sketch) :: rest => do
    let value ← sketch.finish field
    let values ← finishFields field rest
    .ok ((name, value) :: values)
termination_by structural fields => fields

end

end Sketch

/-- Options whose values may wait for helpers. -/
abbrev PendingOptions := Fields Sketch

namespace PendingOptions

/-- The values of options in which nothing waits. -/
def finish : List (String × Sketch) → Except ResolveError (Fields Value)
  | [] => .ok []
  | (name, sketch) :: rest => do
    let value ← sketch.finish name
    let values ← finish rest
    .ok ((name, value) :: values)

end PendingOptions

/-- Where a resolution stands: options with their values, or options that wait. -/
inductive Resolution where
  | ready (options : Fields Value)
  | pending (options : PendingOptions)
deriving Repr

namespace Resolution

/-- Finished options if nothing in them waits, and waiting ones if something
does. -/
def ofPending (options : PendingOptions) : Except ResolveError Resolution :=
  if Sketch.fieldsWait options then .ok (.pending options)
  else (PendingOptions.finish options).map .ready

end Resolution

namespace Template

/-- The first step of resolving the options of a template. -/
def resolve (source : HelperSource) (scope : Scope) (loader : Loader)
    (options : Fields Template) : Attempt Resolution :=
  match Sketch.ofFields source scope loader options with
  | (loader, .ok sketches) => (loader, Resolution.ofPending sketches)
  | (loader, .error error) => (loader, .error error)

end Template

/-- One poll of options that wait. -/
def PendingOptions.poll (loader : Loader) (options : PendingOptions) :
    Attempt Resolution :=
  let (loader, options) := Sketch.pollFields loader options
  (loader, Resolution.ofPending options)

end Choreography
