import Choreography.Page.Format
import Choreography.Page.Report
import Choreography.Json.Printer
import Choreography.Tool.CommandLine
import Choreography.Tool.Outline
import Choreography.Tool.Settings

/-!
# Performing commands

An invocation loads and checks the settings, then performs its command.  A
command prints one JSON document or fails; a strict replay may do both, since its
report is printed before its errors count as a failure.  Files are only seen
through a function that says what stands at a path.
-/

namespace Choreography

/-- What a program leaves behind when it ends. -/
structure Outcome where
  exitCode : Nat
  output : String
  errors : String
deriving DecidableEq, Repr, Inhabited

/-- Why a command fails. -/
inductive Failure where
  | settings (error : SettingsError)
  | notDirective (name start : String)
  | unreadablePage (path : String)
  | page (path : String) (error : PageError)
  | errorDiagnostics (count : Nat)
deriving DecidableEq, Repr

/-- The message of a failure. -/
def Failure.message : Failure → String
  | .settings error => error.message
  | .notDirective name start => s!"属性 '{name}' 不是以 '{start}' 开头的指令"
  | .unreadablePage path => s!"无法读取页面文件: {path}"
  | .page path .malformed => s!"页面文件格式错误: {path}"
  | .page path error => s!"页面文件格式错误: {path}: {error.message}"
  | .errorDiagnostics count => s!"页面产生了 {count} 条错误诊断"

/-- What a command prints, and why it fails if it does. -/
structure Performance where
  printed : Option Json
  failure : Option Failure

/-- The page in what stands at a path. -/
def Page.load (path : String) : Found → Except Failure Page
  | .file (some text) =>
    match Page.read text with
    | .ok page => .ok page
    | .error error => .error (.page path error)
  | _ => .error (.unreadablePage path)

/-- A page is replayed with the settings of the command line. -/
def Page.reportFor (page : Page) (settings : ToolSettings) : Report :=
  .ofStage (page.replay settings.stage settings.helperLatency settings.tickLimit)

/-- The outline of an attribute, if it is a directive. -/
def Attribute.outline (settings : ToolSettings) (attr : Attribute) :
    Except Failure Json :=
  let start := settings.stage.directiveStart
  match Directive.ofAttribute? start attr.name attr.value with
  | some directive => .ok (directive.outline start)
  | none => .error (.notDirective attr.name start)

/-- A command is performed. -/
def Command.perform (settings : ToolSettings) (find : String → Found) :
    Command → Performance
  | .compile name expression =>
    match Attribute.outline settings ⟨name, expression⟩ with
    | .ok outline => ⟨some outline, none⟩
    | .error failure => ⟨none, some failure⟩
  | .run path strict =>
    match Page.load path (find path) with
    | .error failure => ⟨none, some failure⟩
    | .ok page =>
      let report := page.reportFor settings
      let failed := strict && report.errorCount ≠ 0
      ⟨some report.toJson,
        if failed then some (.errorDiagnostics report.errorCount) else none⟩

namespace Invocation

/-- The paths that an invocation reads. -/
def paths (invocation : Invocation) : List String :=
  match invocation.command with
  | .compile _ _ => [invocation.config]
  | .run page _ => [invocation.config, page]

/-- The settings of an invocation, checked. -/
def settings (find : String → Found) (invocation : Invocation) :
    Except SettingsError ToolSettings := do
  let settings ← ToolSettings.load invocation.config (find invocation.config)
  settings.check

/-- An invocation is performed. -/
def perform (find : String → Found) (invocation : Invocation) : Performance :=
  match invocation.settings find with
  | .ok settings => invocation.command.perform settings find
  | .error error => ⟨none, some (.settings error)⟩

end Invocation

namespace Outcome

/-- The outcome of a performance. -/
def ofPerformance (performance : Performance) : Outcome :=
  let output := (performance.printed.map fun data => data.prettyText ++ "\n").getD ""
  match performance.failure with
  | none => ⟨0, output, ""⟩
  | some failure => ⟨1, output, s!"❌ {failure.message}\n"⟩

/-- The outcome of a command line that makes no invocation. -/
def usage : Outcome :=
  ⟨2, "", "motion [-c FILE] [-v] compile ATTRIBUTE [EXPRESSION] | run PAGE [--strict]\n"⟩

/-- The outcome of a command line. -/
def ofArguments (find : String → Found) (arguments : List String) : Outcome :=
  match Invocation.read? arguments with
  | some invocation => ofPerformance (invocation.perform find)
  | none => usage

end Outcome

end Choreography
