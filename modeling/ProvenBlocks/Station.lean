import ProvenBlocks.Assembler
import ProvenBlocks.Bus
import ProvenBlocks.Depot

/-!
A station joins an assembler and its ledger to a depot, a bus and a signer. Signing and listening
are tasks that wait until the station settles, and then run one after the other: a listener that a
task has woken runs before the tasks that were waiting. A restart loses the open block and puts the
ledger aside: its unproven blocks live on only as long as a listener applies signatures to it.
-/

namespace ProvenBlocks

/-- A listener applies the signatures of one subscription to the ledger of one session. A stopped
one lets go of both when its turn comes. -/
structure Listener where
  subscription : Nat
  session : Nat
  isStopped : Bool

/-- A ledger that was put aside, with the signer that it may hold. -/
structure FormerLedger where
  session : Nat
  signsItself : Bool
  unproven : UnprovenRun WriterId
  counters : Counters

/-- Work that is ready to run. -/
inductive Task where
  | sign (hash : Digest)
  | listen (subscription : Nat)
  deriving DecidableEq

/-- Signatures are either provided by the stand-in signer or only recorded as asked for. Sessions
are counted by the restarts before them; the newest listener is the one that a restart stops. Tasks
that become ready while the station settles are kept apart from those that waited for it. -/
structure Station where
  settings : StreamSettings
  world : World Depot
  assembler : Option Assembler
  bus : Bus
  isBusHeld : Bool
  signsItself : Bool
  recorded : List Digest
  session : Nat
  former : List FormerLedger
  listeners : List Listener
  newest : Option Nat
  isSettling : Bool
  ready : List Task
  woken : List Task

/-- Why a station gives no answer. -/
inductive StationFault where
  | noAssembler
  | stream (error : StreamError)
  | writer (fault : IoFault)
  | overflow (overflow : Overflow)

namespace Station

def emptyView : View := ⟨Chain.unseeded, OutputRoots.empty, none⟩

def depot (station : Station) : Depot := station.world.platform

def setDepot (station : Station) (depot : Depot) : Station :=
  { station with world := { station.world with platform := depot } }

/-! ### Tasks -/

/-- A listener is ready at most once. -/
def wake (station : Station) (subscription : Nat) : Station :=
  let task : Task := .listen subscription
  if station.ready.contains task || station.woken.contains task then station
  else if station.isSettling then { station with woken := station.woken ++ [task] }
  else { station with ready := station.ready ++ [task] }

def wakeAll (station : Station) : Station :=
  station.listeners.foldl (fun station listener => station.wake listener.subscription) station

/-- Without the bus at hand nobody can subscribe. -/
def listen (station : Station) : Station :=
  if station.isBusHeld then
    let (subscription, bus) := station.bus.subscribe
    let listener : Listener := ⟨subscription, station.session, false⟩
    { station with
      bus := bus
      listeners := station.listeners ++ [listener]
      newest := some subscription }.wake subscription
  else station

/-- Nothing is assembled yet; a station that signs for itself listens from the start. -/
def idle (settings : StreamSettings) (bus : Bus) (depot : Depot) (signsItself : Bool) : Station :=
  let station : Station :=
    { settings := settings
      world := ⟨emptyView, .empty, .zero, [], depot⟩
      assembler := none
      bus := bus
      isBusHeld := true
      signsItself := signsItself
      recorded := []
      session := 0
      former := []
      listeners := []
      newest := none
      isSettling := false
      ready := []
      woken := [] }
  if signsItself then station.listen else station

/-- Takes the requests of a script that has run to whoever answers them. -/
def collectRequests (station : Station) : Station :=
  let requests := station.world.requests
  let world := { station.world with requests := [] }
  if station.signsItself then
    { station with world := world, ready := station.ready ++ requests.map .sign }
  else { station with world := world, recorded := station.recorded ++ requests }

/-- Runs a script for the station. -/
def perform {α : Type} (station : Station) (script : Script (Except StreamError α)) :
    Except StationFault α × Station :=
  let (answer, world) := script.run Depot.platform station.world
  let after := { station with world := world }.collectRequests
  match answer with
  | .error overflow => (.error (.overflow overflow), after)
  | .ok (.error error) => (.error (.stream error), after)
  | .ok (.ok value) => (.ok value, after)

/-- Begins to assemble from a startup. -/
def start (station : Station) (startup : Startup) : Except Failure Unit × Station :=
  match Assembler.start station.settings startup with
  | .error failure => (.error failure, { station with assembler := none })
  | .ok (assembler, view) =>
      (.ok (), {
        station with
        assembler := some assembler
        world := { station.world with view := view } })

/-- Lets the assembler work, if there is one. -/
def assemble {α : Type} (station : Station)
    (work : Assembler → Script (Except StreamError α × Assembler)) :
    Except StationFault α × Station :=
  match station.assembler with
  | none => (.error .noAssembler, station)
  | some assembler =>
      let (answer, world) := (work assembler).run Depot.platform station.world
      let after := { station with world := world }.collectRequests
      match answer with
      | .error overflow => (.error (.overflow overflow), after)
      | .ok (answer, assembler) =>
          (answer.mapError .stream, { after with assembler := some assembler })

def applySignature (station : Station) (signature : Signature) :
    Except StationFault (List FinalizedBlock) × Station :=
  station.perform (Ledger.applySignature signature.message signature.content)

/-- Hands over a block that was closed elsewhere, on a new writer in place of its own. The new
writer may be left without an open block. -/
def submit {ω : Type} (station : Station) (isOpened : Bool) (block : UnprovenBlock ω) :
    Except StationFault Unit × Station :=
  match station.depot.create with
  | (.error fault, depot) => (.error (.writer fault), station.setDepot depot)
  | (.ok writer, depot) =>
      let (opened, depot) :=
        if isOpened then depot.openBlock writer block.number else (.ok (), depot)
      match opened with
      | .error fault => (.error (.writer fault), station.setDepot (depot.release writer))
      | .ok () => (station.setDepot depot).perform (Ledger.submit { block with writer := writer })

/-! ### Ledgers that were put aside -/

def isHeard (station : Station) (ledger : FormerLedger) : Bool :=
  station.listeners.any fun listener => listener.session == ledger.session

def writersOf (run : UnprovenRun WriterId) : List WriterId := run.blocks.map UnprovenBlock.writer

/-- Former ledgers that nobody listens for are let go with their writers. -/
def releaseUnheard (station : Station) : Station :=
  let unheard := station.former.filter fun ledger => !station.isHeard ledger
  let writers := unheard.flatMap fun ledger => writersOf ledger.unproven
  { station.setDepot (writers.foldl Depot.release station.depot) with
    former := station.former.filter station.isHeard }

def replaceLedger (ledger known : FormerLedger) : FormerLedger :=
  if known.session = ledger.session then ledger else known

/-- A former ledger works on the depot of the station. -/
def applyFormer (station : Station) (ledger : FormerLedger) (signature : Signature) : Station :=
  let before : World Depot :=
    ⟨emptyView, ledger.unproven, ledger.counters, [], station.depot⟩
  let script := Ledger.applySignature signature.message signature.content
  let (_, after) := script.run Depot.platform before
  let applied := { ledger with unproven := after.unproven, counters := after.counters }
  { station.setDepot after.platform with former := station.former.map (replaceLedger applied) }

/-- Errors of a ledger do not stop its listener. -/
def applyIn (station : Station) (session : Nat) (signature : Signature) : Station :=
  match station.former.find? fun ledger => ledger.session == session with
  | some ledger => station.applyFormer ledger signature
  | none => (station.applySignature signature).2

/-! ### Signatures -/

/-- The bus stays open for whoever holds it: the station, and every signer and signature to be. -/
def isBusKept (station : Station) : Bool :=
  station.isBusHeld || station.signsItself || station.former.any FormerLedger.signsItself
    || station.ready.any fun
      | .sign _ => true
      | .listen _ => false

def closeUnkept (station : Station) : Station :=
  if station.isBusKept || !station.bus.isOpen then station
  else { station with bus := station.bus.close }.wakeAll

def deliver (station : Station) (signature : Signature) : Except Overflow Delivery × Station :=
  let (delivery, bus) := station.bus.publish signature
  (delivery, { station with bus := bus }.wakeAll)

/-- Without the bus at hand nothing is published. -/
def publish (station : Station) (signature : Signature) :
    Except Overflow (Option Delivery) × Station :=
  if station.isBusHeld then (station.deliver signature).map (·.map some) id
  else (.ok none, station)

/-- Applies one waiting signature. -/
def applyNext (station : Station) (listener : Listener) : Station :=
  match station.bus.receive listener.subscription with
  | (.event signature, bus) => { station with bus := bus }.applyIn listener.session signature
  | (.pending, _) | (.closed, _) => station

def applyAll (station : Station) (listener : Listener) : Station :=
  let waiting := match station.bus.find? listener.subscription with
    | none => 0
    | some found => found.waiting.length
  Nat.repeat (·.applyNext listener) waiting station

/-- A listener that ends leaves the bus and lets go of its ledger. -/
def endListener (station : Station) (listener : Listener) : Station :=
  { station with
    bus := station.bus.unsubscribe listener.subscription
    listeners := station.listeners.filter fun known =>
      known.subscription != listener.subscription }.releaseUnheard.closeUnkept

/-- A stopped listener ends at once; on a closed bus it ends when it has applied all that was
waiting. -/
def hear (station : Station) (listener : Listener) : Station :=
  if listener.isStopped then station.endListener listener
  else
    let applied := station.applyAll listener
    if applied.bus.isOpen then applied else applied.endListener listener

/-- The signer learns of no overflow. -/
def runTask (station : Station) : Task → Station
  | .sign hash => (station.deliver (.standIn hash)).2.closeUnkept
  | .listen subscription =>
      match station.listeners.find? fun known => known.subscription == subscription with
      | none => station
      | some listener => station.hear listener

/-- What a task has woken runs before what was waiting. -/
def nextTask? (station : Station) : Option (Task × Station) :=
  match station.woken, station.ready with
  | task :: later, _ => some (task, { station with woken := later })
  | [], task :: later => some (task, { station with ready := later })
  | [], [] => none

def settleWithin : Nat → Station → Station
  | 0, station => station
  | fuel + 1, station =>
      match station.nextTask? with
      | none => station
      | some (task, station) => settleWithin fuel (station.runTask task)

/-- Runs tasks until none is ready. Each task wakes every listener at most once. -/
def settle (station : Station) : Station :=
  let tasks := station.ready.length
  let settled := settleWithin (tasks + (tasks + 1) * station.listeners.length)
    { station with isSettling := true }
  { settled with isSettling := false }

def dropBus (station : Station) : Station := { station with isBusHeld := false }.closeUnkept

/-- Whether the newest listener is still at work; none if there is no listener. -/
def isListening (station : Station) : Option Bool :=
  station.newest.map fun subscription =>
    station.listeners.any fun listener => listener.subscription == subscription

/-! ### Restarting -/

def openWriters (assembler : Assembler) : List WriterId :=
  match assembler.phase with
  | .assembling block => [block.writer]
  | .idle | .frozen _ | .halted _ => []

def dropAssembler (station : Station) : Station :=
  let writers := (station.assembler.map openWriters).getD []
  { station.setDepot (writers.foldl Depot.release station.depot) with assembler := none }

def stopNamed (subscription : Nat) (listener : Listener) : Listener :=
  if listener.subscription = subscription then { listener with isStopped := true } else listener

/-- Earlier listeners than the newest go on. -/
def stopNewest (station : Station) : Station :=
  match station.newest with
  | none => station
  | some subscription =>
      { station with
        listeners := station.listeners.map (stopNamed subscription)
        newest := none }.wake subscription

/-- Puts the ledger aside; the counters of the next one begin anew. A station that has let go of
the bus cannot sign for itself again. -/
def replaceSession (station : Station) : Station :=
  let world := station.world
  let ledger : FormerLedger :=
    ⟨station.session, station.signsItself, world.unproven, world.counters⟩
  { station with
    world := ⟨emptyView, .empty, .zero, [], station.depot⟩
    session := station.session + 1
    signsItself := station.signsItself && station.isBusHeld
    former := station.former ++ [ledger] }.releaseUnheard

/-- Lets go of the assembler and begins a session; one that signs for itself listens anew. -/
def restartIdle (station : Station) : Station :=
  let replaced := station.dropAssembler.stopNewest.replaceSession
  (if replaced.signsItself then replaced.listen else replaced).closeUnkept

def restart (station : Station) (startup : Startup) : Except Failure Unit × Station :=
  station.restartIdle.start startup

/-- Lets go of everything and leaves the depot. -/
def stop (station : Station) : Depot :=
  { station with listeners := [] }.dropAssembler.replaceSession.depot

end Station
end ProvenBlocks
