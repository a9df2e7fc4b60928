/-!
# Diagnostics

What went wrong without stopping anything: an error means that an animation is
not played, a warning that a part of the input was passed over.
-/

namespace Choreography

/-- How serious a diagnostic is. -/
inductive Level where
  | info
  | warning
  | error
deriving DecidableEq, Repr

namespace Level

/-- The name of a level in texts. -/
def name : Level → String
  | .info => "INFO"
  | .warning => "WARN"
  | .error => "ERROR"

/-- The place of a level in the order from the least serious one. -/
def rank : Level → Nat
  | .info => 0
  | .warning => 1
  | .error => 2

end Level

/-- One problem: what reported it, what it says, and the text at fault. -/
structure Diagnostic where
  level : Level
  source : String
  message : String
  detail : Option String
deriving DecidableEq, Repr

namespace Diagnostic

/-- The text that shows a diagnostic; the detail is on a line of its own. -/
def text (diagnostic : Diagnostic) : String :=
  let head := s!"[{diagnostic.level.name}] {diagnostic.source}: {diagnostic.message}"
  match diagnostic.detail with
  | some detail => s!"{head}\n  | {detail}"
  | none => head

/-- How many diagnostics have the given level. -/
def countLevel (level : Level) (diagnostics : List Diagnostic) : Nat :=
  diagnostics.countP fun diagnostic => diagnostic.level = level

/-- The diagnostics that are at least as serious as the given level. -/
def atLeast (level : Level) (diagnostics : List Diagnostic) : List Diagnostic :=
  diagnostics.filter fun diagnostic => level.rank ≤ diagnostic.level.rank

end Diagnostic

end Choreography
