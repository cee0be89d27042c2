/-!
Events of the log: their levels, where they come from, and which fields they have.
-/

namespace ProvenBlocks

inductive LogLevel where
  | error
  | warn
  | info
  | debug
  | trace
  deriving DecidableEq

def LogLevel.rank : LogLevel → Nat
  | .error => 1
  | .warn => 2
  | .info => 3
  | .debug => 4
  | .trace => 5

def LogLevel.name : LogLevel → String
  | .error => "ERROR"
  | .warn => "WARN"
  | .info => "INFO"
  | .debug => "DEBUG"
  | .trace => "TRACE"

/-- Fields are known by their names only; the text of an event is a field that all events have. -/
structure LogEvent where
  level : LogLevel
  target : String
  fields : List String
  deriving DecidableEq

namespace LogEvent

def textField : String := "message"

def hasField (event : LogEvent) (name : String) : Bool :=
  name == textField || event.fields.contains name

def line (event : LogEvent) : String := event.level.name ++ " " ++ event.target

end LogEvent
end ProvenBlocks
