import Choreography.Page.Replay
import Choreography.Stage.Trace

/-!
# Reports of a replay

What is told about a replay once it is over: the requests made of the engine, the
texts of the diagnostics, how many of them are errors, the names that are
registered, and how many runs still wait.
-/

namespace Choreography

/-- The report of a replay. -/
structure Report where
  trace : List Json
  diagnostics : List String
  errorCount : Nat
  names : List String
  pendingCount : Nat

namespace Report

/-- What is to be told about a stage. -/
def ofStage (stage : Stage) : Report :=
  { trace := stage.history.reverse.filterMap Event.trace?
    diagnostics := stage.diagnostics.map Diagnostic.text
    errorCount := Diagnostic.countLevel .error stage.diagnostics
    names := stage.registry.names
    pendingCount := stage.pending.length }

/-- A report as JSON data. -/
def toJson (report : Report) : Json :=
  .object
    [("events", .array report.trace),
      ("diagnostics", Json.ofStrings report.diagnostics),
      ("error_count", .ofNat report.errorCount),
      ("registry", Json.ofStrings report.names),
      ("pending", .ofNat report.pendingCount)]

end Report

end Choreography
