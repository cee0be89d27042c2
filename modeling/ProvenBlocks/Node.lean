import ProvenBlocks.Feed
import ProvenBlocks.LogSettings
import ProvenBlocks.Settings.Environment
import ProvenBlocks.Station

/-!
A node feeds made-up rounds to a station that writes block files, keeps its checkpoint in a file
and signs for itself. What it leaves behind is a file tree, from which the next node goes on.
-/

namespace ProvenBlocks

structure NodeSettings where
  stream : StreamSettings
  log : LogSettings
  feed : FeedSettings

namespace NodeSettings

/-- The first bad setting is reported: of the stream, of the log, of the feed. -/
def ofEnvironment (environment : Environment) : Except ErrorTrail NodeSettings := do
  let stream ← (StreamSettings.ofEnvironment environment).mapError fun error =>
    ["Invalid block stream configuration", error.message]
  let log ← (LogSettings.forSubsystem environment "17" "block-stream").mapError fun fault =>
    ["Invalid logging configuration", fault.message]
  let feed ← FeedSettings.ofEnvironment environment
  .ok ⟨stream, log, feed⟩

end NodeSettings

/-- Why a node stops early. -/
inductive NodeFault where
  | failed (trail : ErrorTrail)
  | overflow (overflow : Overflow)

structure RunSummary where
  rounds : Nat
  closedBlocks : UInt64
  lastNumber : Option UInt64
  lastHash : Option Digest
  unproven : Nat
  isFrozen : Bool

structure Node where
  feed : FeedSettings
  station : Station
  rounds : Nat

namespace Node

def fault (context : String) : Failure → NodeFault
  | .stream error => .failed [context, error.message]
  | .overflow overflow => .overflow overflow

/-- Reads the stored checkpoint, makes the block directory, and starts to assemble. -/
def start (stream : StreamSettings) (feed : FeedSettings) (tree : FileTree) :
    Except NodeFault Node × FileTree :=
  match StateFile.load tree stream.statePath with
  | .error error =>
      (.error (.failed ["Failed to load block stream state", error.message]), tree)
  | .ok stored =>
      match tree.makeDirectories stream.blockDirectory with
      | (.error error, tree) =>
          (.error (.failed ["Failed to create block directory", error.message]), tree)
      | (.ok (), tree) =>
          let depot := Depot.empty (.directory stream.blockDirectory) (.file stream.statePath)
          let bus := Bus.empty stream.signatureCapacity
          let station := Station.idle stream bus (depot.setTree tree) true
          match station.start (.ofStored stored) with
          | (.error failure, _) =>
              (.error (fault "Failed to initialize block stream" failure), tree)
          | (.ok (), station) => (.ok ⟨feed, station, 0⟩, tree)

def tree (node : Node) : FileTree := node.station.depot.tree

def setTree (node : Node) (tree : FileTree) : Node :=
  { node with station := node.station.setDepot (node.station.depot.setTree tree) }

def isFrozen (node : Node) : Bool :=
  (node.station.assembler.map Assembler.isFrozen).getD false

def isHalted (node : Node) : Bool :=
  (node.station.assembler.map Assembler.isHalted).getD false

/-- Rounds that left their block open. -/
def openEndedRounds (node : Node) : Nat :=
  node.rounds - node.station.world.counters.closed.toNat

/-- Rounds that went on with the block of an earlier one. -/
def continuedRounds (node : Node) : Nat :=
  match node.station.assembler.map Assembler.phase with
  | some (.assembling _) => node.openEndedRounds - 1
  | _ => node.openEndedRounds

def summary (node : Node) : RunSummary :=
  let world := node.station.world
  { rounds := node.rounds
    closedBlocks := world.counters.closed
    lastNumber := world.view.currentNumber
    lastHash := world.view.lastHash
    unproven := world.unproven.size
    isFrozen := node.isFrozen }

def roundFault (round : Round) : StationFault → NodeFault
  | .overflow overflow => .overflow overflow
  | .stream error =>
      .failed ["Block stream failed at round " ++ toString round.number, error.message]
  | .noAssembler | .writer _ => .failed ["Block stream failed at round " ++ toString round.number]

/-- Counts the rounds that were taken in. -/
def processRound (node : Node) (round : Round) :
    Except NodeFault (Option ClosedBlock) × Node :=
  match node.station.assemble (·.processRound round) with
  | (.error fault, station) => (.error (roundFault round fault), { node with station := station })
  | (.ok closed, station) =>
      (.ok closed, { node with station := station, rounds := node.rounds + 1 })

/-- Feeds rounds until the feed ends or the stream is frozen; signatures are settled after each
round. -/
def runWithin {generator : Generator} :
    Nat → Feed generator → Node → Except NodeFault RunSummary × Node
  | 0, _, node => (.ok node.summary, node)
  | fuel + 1, feed, node =>
      match feed.next? with
      | .error overflow => (.error (.overflow overflow), node)
      | .ok none => (.ok node.summary, node)
      | .ok (some (round, feed)) =>
          match node.processRound round with
          | (.error fault, node) => (.error fault, node)
          | (.ok _, node) =>
              let settled := { node with station := node.station.settle }
              if settled.isFrozen then (.ok settled.summary, settled)
              else settled.runWithin fuel feed

def run (node : Node) (clock : Instant) (generator : Generator) :
    Except NodeFault RunSummary × Node :=
  node.runWithin node.feed.rounds.toNat (.start node.feed clock generator)

/-- Lets go of everything; a node that halted reports it. -/
def shutdown (node : Node) : Except ErrorTrail Unit × FileTree :=
  (if node.isHalted then .error ["Block stream halted during the run"] else .ok (),
    node.station.stop.tree)

end Node
end ProvenBlocks
