import ProvenBlocks.LogFilter
import ProvenBlocks.Node

/-!
One run of the program: settings from the environment, a node from start to shutdown, and what
the run leaves behind in files, on the error stream and in the log.
-/

namespace ProvenBlocks
namespace CommandLine

structure RunResult where
  exitCode : UInt32
  errorText : String
  log : List LogEvent
  tree : FileTree

/-! ### Error text -/

def indented (first later : String) (content : String) : String :=
  first ++ ("\n" ++ later).intercalate (content.splitOn "\n")

/-- Several causes are numbered from zero. -/
def numberedCauses : Nat → List String → String
  | _, [] => ""
  | number, cause :: later =>
      "\n" ++ indented ("    " ++ toString number ++ ": ") "       " cause
        ++ numberedCauses (number + 1) later

def causesText : List String → String
  | [] => ""
  | [cause] => "\n\nCaused by:\n" ++ indented "    " "    " cause
  | causes => "\n\nCaused by:" ++ numberedCauses 0 causes

def errorText : ErrorTrail → String
  | [] => ""
  | outermost :: causes => "Error: " ++ outermost ++ causesText causes ++ "\n"

/-! ### Log -/

def blockStream (module : String) : String := "qc_17_block_stream::" ++ module

/-- What every run logs once its log is set up. -/
def frameEvents : List LogEvent :=
  [⟨.info, "quantum_telemetry::logging", ["service", "format"]⟩,
    ⟨.info, "node_runtime::runtime", []⟩,
    ⟨.debug, "shared_bus::publisher", ["registrations"]⟩,
    ⟨.debug, "shared_bus::subscriber", ["registrations"]⟩,
    ⟨.info, blockStream "handler::signature_listener", []⟩,
    ⟨.info, "quantum_telemetry", ["service"]⟩]

def openedEvents : List LogEvent :=
  [⟨.debug, blockStream "adapters::file_writer", ["block_number", "path"]⟩,
    ⟨.debug, blockStream "service", ["block_number", "kind", "item_hash"]⟩,
    ⟨.info, blockStream "service", ["block_number", "round", "previous_block_hash"]⟩]

def openEndedEvent : LogEvent := ⟨.debug, blockStream "service", ["block_number", "rounds"]⟩

def continuedEvent : LogEvent := ⟨.debug, blockStream "service", ["block_number", "round"]⟩

/-- A closed block has its state saved, its signature asked for and its proof written. -/
def closedEvents : List LogEvent :=
  [⟨.debug, blockStream "adapters::state_store", ["path", "block_number"]⟩,
    ⟨.debug, blockStream "ledger", ["block_number", "block_hash"]⟩,
    ⟨.info, blockStream "service", ["block_number", "block_hash", "rounds", "items", "freeze"]⟩,
    ⟨.debug, "shared_bus::publisher", ["message_hash", "receivers"]⟩,
    ⟨.debug, blockStream "adapters::placeholder_signer", ["message_hash", "receivers"]⟩,
    ⟨.debug, blockStream "adapters::file_writer", ["block_number"]⟩,
    ⟨.info, blockStream "ledger", ["block_number", "kind", "siblings"]⟩]

def frozenEvents : List LogEvent :=
  [⟨.info, blockStream "service", ["block_number"]⟩, ⟨.info, "node_runtime::runtime", ["round"]⟩]

def haltedEvent : LogEvent := ⟨.error, blockStream "service", ["error", "block_number"]⟩

def eventsIf (happened : Bool) (events : List LogEvent) : List LogEvent :=
  if happened then events else []

def nodeEvents (node : Node) : List LogEvent :=
  let counters := node.station.world.counters
  ⟨.info, blockStream "service", []⟩ ::
    (eventsIf (counters.opened != 0) openedEvents
      ++ eventsIf (node.openEndedRounds != 0) [openEndedEvent]
      ++ eventsIf (node.continuedRounds != 0) [continuedEvent]
      ++ eventsIf (counters.closed != 0) closedEvents
      ++ eventsIf node.isFrozen frozenEvents
      ++ eventsIf node.isHalted [haltedEvent])

def completedEvents : List LogEvent :=
  [⟨.info, "node_runtime::runtime", ["rounds", "blocks", "unproven"]⟩,
    ⟨.info, "node_runtime", ["last_block", "last_hash", "frozen"]⟩]

def written (format : LogFormat) (filter : LogFilter) (events : List LogEvent) : List LogEvent :=
  if format = .off then [] else events.filter filter.passes

/-! ### Running -/

/-- The settings that a run looks at. -/
def variableNames : List String :=
  ["QC_BLOCK_STREAM_ROUNDS_PER_BLOCK", "QC_BLOCK_STREAM_DIR", "QC_BLOCK_STREAM_STATE_PATH",
    "QC_SIGNATURE_CHANNEL_CAPACITY", "QC_SIM_ROUNDS", "QC_SIM_TXS_PER_ROUND",
    "QC_SIM_FREEZE_ROUND", "QC_SIM_SEED", "QC_SERVICE_NAME", "QC_SUBSYSTEM_ID", "QC_LOG_LEVEL",
    "QC_LOG_FORMAT", "QC_JSON_LOGS", "RUST_LOG"]

/-- The paths that a run goes to, apart from the files in the block directory. -/
def paths (environment : Environment) : List String :=
  match NodeSettings.ofEnvironment environment with
  | .error _ => []
  | .ok settings =>
      let statePath := settings.stream.statePath
      [statePath, StateFile.temporaryPath statePath, settings.stream.blockDirectory]

/-- A stopped computation exits with a code of its own. -/
def stoppedCode : UInt32 := 101

def faultResult : NodeFault → UInt32 × String
  | .failed trail => (1, errorText trail)
  | .overflow overflow => (stoppedCode, overflow.message ++ "\n")

def runNode (settings : NodeSettings) (filter : LogFilter) (tree : FileTree) (clock : Instant)
    (generator : Generator) : RunResult :=
  let log := fun events => written settings.log.format filter (frameEvents ++ events)
  match Node.start settings.stream settings.feed tree with
  | (.error fault, tree) =>
      let (code, message) := faultResult fault
      ⟨code, message, log [], tree⟩
  | (.ok node, _) =>
      match node.run clock generator with
      | (.error fault, node) =>
          let (code, message) := faultResult fault
          ⟨code, message, log (nodeEvents node), node.shutdown.2⟩
      | (.ok _, node) =>
          let events := log (nodeEvents node ++ completedEvents)
          match node.shutdown with
          | (.error trail, tree) => ⟨1, errorText trail, events, tree⟩
          | (.ok (), tree) => ⟨0, "", events, tree⟩

def run (environment : Environment) (tree : FileTree) (clock : Instant) (generator : Generator) :
    RunResult :=
  match NodeSettings.ofEnvironment environment with
  | .error trail => ⟨1, errorText trail, [], tree⟩
  | .ok settings =>
      match LogFilter.choose (environment.get? "RUST_LOG") settings.log.level with
      | .error inside => ⟨stoppedCode, inside.message ++ "\n", [], tree⟩
      | .ok (.error fault) =>
          ⟨1, errorText ["Failed to initialize logging", fault.message], [], tree⟩
      | .ok (.ok filter) => runNode settings filter tree clock generator

end CommandLine
end ProvenBlocks
