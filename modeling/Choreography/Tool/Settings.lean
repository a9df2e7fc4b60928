import Choreography.Settings
import Choreography.Tool.FileTree

/-!
# Settings of the command line

Besides the settings of a stage: how much is logged, how many ticks the built-in
helpers take, and how many ticks a replay may take after its script.  Settings
come from a JSON file; without a file the standard ones hold.  `fault?` says what
must not be: above all helpers that take longer than a replay may last.
-/

namespace Choreography

/-- How much is logged: each level includes those before it. -/
inductive LogLevel where
  | error
  | warning
  | info
  | debug
  | trace
deriving DecidableEq, Repr

namespace LogLevel

/-- All levels, from the fewest messages to the most. -/
def all : List LogLevel := [.error, .warning, .info, .debug, .trace]

/-- The name of a level in messages. -/
def name : LogLevel → String
  | .error => "ERROR"
  | .warning => "WARN"
  | .info => "INFO"
  | .debug => "DEBUG"
  | .trace => "TRACE"

/-- The level that a text names: by its position, counted from one, or by its
name in ASCII letters of any case. -/
def parse? (text : String) : Option LogLevel :=
  match Numeral.natural? text.toList with
  | some position => if position = 0 then none else all[position - 1]?
  | none => all.find? fun level => Text.lowerAscii level.name = Text.lowerAscii text

end LogLevel

/-- The settings of the command line. -/
structure ToolSettings where
  logLevel : String
  /-- How many ticks the built-in helpers take to arrive. -/
  helperLatency : Nat
  /-- How many ticks a replay may take after its script. -/
  tickLimit : Nat
  stage : Settings
deriving DecidableEq, Repr

/-- What must not be in settings. -/
inductive SettingsFault where
  | unknownLevel (text : String)
  | noTicks
  | tooSlow (latency limit : Nat)
  | emptyStart
deriving DecidableEq, Repr

/-- The message of a fault in settings. -/
def SettingsFault.message : SettingsFault → String
  | .unknownLevel text => s!"无效的日志级别: '{text}'"
  | .noTicks => "max_ticks 必须大于 0"
  | .tooSlow latency limit =>
    s!"helper_latency_ticks ({latency}) 必须小于 max_ticks ({limit})"
  | .emptyStart => "runtime.directive_prefix 不能为空"

/-- Why there are no settings. -/
inductive SettingsError where
  | unreadable (path : String)
  | malformed (path : String)
  | invalid (fault : SettingsFault)
deriving DecidableEq, Repr

/-- The message of a settings error. -/
def SettingsError.message : SettingsError → String
  | .unreadable path => s!"配置文件读取失败 {path}"
  | .malformed path => s!"配置文件解析失败 {path}"
  | .invalid fault => s!"配置验证失败: {fault.message}"

namespace ToolSettings

/-- The settings that hold without a file. -/
def standard : ToolSettings := ⟨"info", 1, 32, Settings.standard⟩

instance : Inhabited ToolSettings := ⟨standard⟩

/-- The level of the log. -/
def level? (settings : ToolSettings) : Option LogLevel := LogLevel.parse? settings.logLevel

/-- The first fault in settings. -/
def fault? (settings : ToolSettings) : Option SettingsFault :=
  if settings.level?.isNone then some (.unknownLevel settings.logLevel)
  else if settings.tickLimit = 0 then some .noTicks
  else if settings.tickLimit ≤ settings.helperLatency then
    some (.tooSlow settings.helperLatency settings.tickLimit)
  else if settings.stage.directiveStart = "" then some .emptyStart
  else none

/-- Settings as JSON data. -/
def toJson (settings : ToolSettings) : Json :=
  .object
    [("log_level", .string settings.logLevel),
      ("helper_latency_ticks", .ofNat settings.helperLatency),
      ("max_ticks", .ofNat settings.tickLimit), ("runtime", settings.stage.toJson)]

end ToolSettings

/-- Settings of the command line; those that are missing have their standard
values. -/
def Decoder.toolSettings : Json.Decoder ToolSettings := fun depth document => do
  let fields ← Json.Decoder.record
    ["log_level", "helper_latency_ticks", "max_ticks", "runtime"] depth document
  let level ← Json.Decoder.defaulted fields "log_level"
    ToolSettings.standard.logLevel Json.Decoder.string
  let latency ← Json.Decoder.defaulted fields "helper_latency_ticks"
    ToolSettings.standard.helperLatency Json.Decoder.count
  let limit ← Json.Decoder.defaulted fields "max_ticks"
    ToolSettings.standard.tickLimit Json.Decoder.count
  let stage ← Json.Decoder.defaulted fields "runtime"
    ToolSettings.standard.stage Decoder.settings
  some ⟨level, latency, limit, stage⟩

namespace ToolSettings

/-- The settings in what stands at a path, not checked yet. -/
def load (path : String) : Found → Except SettingsError ToolSettings
  | .nothing => .ok standard
  | .file (some text) =>
    match Json.Decoder.fromText Decoder.toolSettings text with
    | some settings => .ok settings
    | none => .error (.malformed path)
  | .file none => .error (.unreadable path)
  | .folder _ => .error (.unreadable path)

/-- Settings, if there is no fault in them. -/
def check (settings : ToolSettings) : Except SettingsError ToolSettings :=
  match settings.fault? with
  | some fault => .error (.invalid fault)
  | none => .ok settings

/-- Settings that pass the check let the helpers arrive within a replay. -/
theorem helperLatency_lt_tickLimit {settings accepted : ToolSettings}
    (sound : settings.check = .ok accepted) :
    accepted = settings ∧ settings.helperLatency < settings.tickLimit := by
  unfold check at sound
  split at sound
  · simp at sound
  · rename_i faultless
    unfold fault? at faultless
    simp only [Except.ok.injEq] at sound
    refine ⟨sound.symm, ?_⟩
    grind

end ToolSettings

end Choreography
