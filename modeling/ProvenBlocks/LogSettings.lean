import ProvenBlocks.Environment

/-!
Settings of the log: who writes it, in which format, and which events are worth writing.
-/

namespace ProvenBlocks

inductive LogFormat where
  | pretty
  | json
  | off
  deriving DecidableEq

/-- Settings that no log can be set up with. -/
structure LogFault where
  reason : String

def LogFault.message (fault : LogFault) : String := "Invalid configuration: " ++ fault.reason

def asciiLower (content : String) : String := content.map Char.toLower

namespace LogFormat

/-- Upper and lower case are the same for ASCII letters only. -/
def parse (content : String) : Except LogFault LogFormat :=
  match asciiLower content with
  | "pretty" | "text" => .ok .pretty
  | "json" => .ok .json
  | "off" | "none" => .ok .off
  | other => .error ⟨"unknown log format '" ++ other ++ "'"⟩

def name : LogFormat → String
  | .pretty => "Pretty"
  | .json => "Json"
  | .off => "Off"

end LogFormat

structure LogSettings where
  serviceName : String
  subsystem : String
  level : String
  format : LogFormat
  deriving DecidableEq

namespace LogSettings

/-- Stands for the node as a whole. -/
def wholeNode : String := "00"

/-- The older switch for the JSON format counts only without the newer setting. -/
def readFormat (environment : Environment) : Except LogFault LogFormat :=
  match environment.get? "QC_LOG_FORMAT" with
  | some content => LogFormat.parse content
  | none =>
      match environment.get? "QC_JSON_LOGS" with
      | some switch => .ok (if asciiLower switch == "true" || switch == "1" then .json else .pretty)
      | none => .ok .pretty

def ofEnvironment (environment : Environment) : Except LogFault LogSettings := do
  let format ← readFormat environment
  .ok {
    serviceName := (environment.get? "QC_SERVICE_NAME").getD "quantum-chain"
    subsystem := (environment.get? "QC_SUBSYSTEM_ID").getD wholeNode
    level := (environment.get? "QC_LOG_LEVEL").getD "info"
    format := format }

/-- A subsystem has its own name and number, whatever the environment says. -/
def forSubsystem (environment : Environment) (subsystem name : String) :
    Except LogFault LogSettings := do
  let settings ← ofEnvironment environment
  .ok { settings with
    subsystem := subsystem
    serviceName := "qc-" ++ subsystem ++ "-" ++ name }

def fullServiceName (settings : LogSettings) : String :=
  if settings.subsystem == wholeNode || "qc-".toList.isPrefixOf settings.serviceName.toList then
    settings.serviceName
  else settings.serviceName ++ "-" ++ settings.subsystem

end LogSettings
end ProvenBlocks
