import ProvenBlocks.Ledger
import ProvenBlocks.Settings

/-!
Assembly of blocks from consensus rounds. A round opens a block if none is open, its items go to
the open block, and the last round of a block, or a freeze round, closes it: roots, hash,
boundary item, saved checkpoint, new view, hand-over to the ledger. The view shows a block only
after its checkpoint is saved. A failed call on a writer or on the stored checkpoint halts the
stream for good.
-/

namespace ProvenBlocks

-- A power means the same beside an algebra library.
attribute [local instance (20000)] instPowNat

structure Round where
  number : UInt64
  time : Instant
  freeze : Bool
  items : List Item

structure ClosedBlock where
  number : UInt64
  hash : Digest
  previousHash : Digest
  time : Instant
  inputRoot : Digest
  outputRoot : Digest
  rounds : UInt32
  items : UInt64
  frozen : Bool
  deriving DecidableEq

structure OpenBlock where
  number : UInt64
  previousHash : Digest
  time : Instant
  rounds : UInt32
  items : Nat
  input : RunningDigest
  writer : WriterId

inductive Phase where
  | idle
  | assembling (block : OpenBlock)
  | frozen (block : UInt64)
  | halted (reason : String)

structure Assembler where
  settings : StreamSettings
  phase : Phase
  lastTime : Option Instant

/-- Name of the boundary state change in every block. -/
def streamInfoName : String := "BlockStreamService.BLOCK_STREAM_INFO"

namespace Assembler

def start (settings : StreamSettings) (startup : Startup) : Except Failure (Assembler × View) :=
  match settings.validate with
  | .error error => .error (.stream error)
  | .ok () => do
      let chain ← Chain.seeded startup
      let outputs := OutputRoots.ofHistory startup.checkpoint.outputRoots
      .ok (⟨settings, .idle, startup.checkpoint.blockTime⟩, ⟨chain, outputs, none⟩)

/-- The checkpoint as it would be saved now. -/
def checkpoint (assembler : Assembler) (view : View) : Checkpoint where
  blockNumber := view.chain.lastNumber
  blockTime := assembler.lastTime
  outputRoots := view.outputs.trailing
  blockHashes := view.chain.trailing

def openNumber (assembler : Assembler) : Option UInt64 :=
  match assembler.phase with
  | .assembling block => some block.number
  | _ => none

def isFrozen (assembler : Assembler) : Bool :=
  match assembler.phase with
  | .frozen _ => true
  | _ => false

def isHalted (assembler : Assembler) : Bool :=
  match assembler.phase with
  | .halted _ => true
  | _ => false

def phaseName (assembler : Assembler) : String :=
  match assembler.phase with
  | .idle => "NoBlockOpen"
  | .assembling _ => "BlockOpen"
  | .frozen _ => "Frozen"
  | .halted _ => "Halted"

/-- A frozen or halted stream refuses every call. -/
def checkWritable (assembler : Assembler) : Except StreamError Unit :=
  match assembler.phase with
  | .frozen block => .error (.frozen block)
  | .halted reason => .error (.halted reason)
  | .idle | .assembling _ => .ok ()

/-- Stops production; readers no longer see an open block. -/
def halt {α : Type} (assembler : Assembler) (error : StreamError) :
    Script (Except StreamError α × Assembler) := do
  let view ← Script.readView
  Script.writeView { view with openBlock := none }
  return (.error error, { assembler with phase := .halted error.message })

/-- Writes an item and feeds its digest to the root it belongs to. -/
def appendItem (block : OpenBlock) (item : Item) : Script (Except StreamError OpenBlock) := do
  let content := item.encode
  match ← Script.writeItem block.writer content with
  | .error fault => return .error (.writer block.number fault.message)
  | .ok () =>
      let digest := Digest.of content
      match item.root with
      | some .input =>
          Script.count .items
          return .ok { block with input := block.input.add digest, items := block.items + 1 }
      | some .output =>
          let view ← Script.readView
          Script.writeView { view with outputs := view.outputs.add digest }
          Script.count .items
          return .ok { block with items := block.items + 1 }
      | none =>
          Script.count .items
          return .ok { block with items := block.items + 1 }

def header (settings : StreamSettings) (number : UInt64) (previousHash : Digest) (time : Instant) :
    Item :=
  .header ⟨number, time, previousHash, settings.softwareVersion, .sha384⟩

/-- Opens the next block on a fresh writer and writes its header. -/
def openBlock (settings : StreamSettings) (round : Round) :
    Script (Except StreamError OpenBlock) := do
  let view ← Script.readView
  match view.chain.prior with
  | none => return .error .uninitializedChain
  | some previousHash =>
      let number ← Script.ofOverflow view.chain.nextNumber
      match ← Script.createWriter with
      | .error fault => return .error (.writer number fault.message)
      | .ok writer =>
          match ← Script.openBlock writer number with
          | .error fault =>
              Script.release writer
              return .error (.writer number fault.message)
          | .ok () =>
              let block : OpenBlock :=
                ⟨number, previousHash, round.time, 0, 0, RunningDigest.empty, writer⟩
              match ← appendItem block (header settings number previousHash round.time) with
              | .error error =>
                  Script.release writer
                  return .error error
              | .ok block =>
                  let view ← Script.readView
                  Script.writeView
                    { view with outputs := view.outputs.reset, openBlock := some number }
                  Script.count .opened
                  return .ok block

def startRound (assembler : Assembler) (round : Round) :
    Script (Except StreamError Unit × Assembler) := do
  match assembler.checkWritable with
  | .error error => return (.error error, assembler)
  | .ok () =>
      match assembler.phase with
      | .assembling _ => return (.ok (), assembler)
      | _ =>
          let view ← Script.readView
          if view.chain.isInitialized then
            match ← openBlock assembler.settings round with
            | .error error => assembler.halt error
            | .ok block => return (.ok (), { assembler with phase := .assembling block })
          else return (.error .uninitializedChain, assembler)

/-- Items that the stream writes itself are refused. -/
def writeItem (assembler : Assembler) (item : Item) :
    Script (Except StreamError Unit × Assembler) := do
  match assembler.checkWritable with
  | .error error => return (.error error, assembler)
  | .ok () =>
      if item.isManaged then return (.error (.invalidItem item.kind), assembler)
      else
        match assembler.phase with
        | .assembling block =>
            match ← appendItem block item with
            | .error error =>
                let halted ← assembler.halt error
                Script.release block.writer
                return halted
            | .ok block => return (.ok (), { assembler with phase := .assembling block })
        | _ => return (.error .noBlockOpen, assembler)

def boundary (round : Round) (checkpoint : Checkpoint) : Item :=
  .stateChanges ⟨round.time, [⟨streamInfoName, .streamInfo checkpoint⟩]⟩

/-- Writes the boundary item, saves the checkpoint, shows the block and hands it over. The chain
and the output roots are worked on as copies until the checkpoint is saved. -/
def finishBlock (block : OpenBlock) (round : Round) :
    Script (Except StreamError ClosedBlock) := do
  let inputRoot := block.input.value
  let view ← Script.readView
  let (outputRoot, outputs) := view.outputs.finish
  let steps := Chain.steps inputRoot outputRoot
  match view.chain.nextHash steps with
  | .error error =>
      Script.release block.writer
      return .error error
  | .ok hash =>
      match ← Script.ofFailure (view.chain.append block.number hash) with
      | .error error =>
          Script.release block.writer
          return .error error
      | .ok (_, chain) =>
          let checkpoint : Checkpoint :=
            ⟨some block.number, some block.time, outputs.trailing, chain.trailing⟩
          match ← appendItem block (boundary round checkpoint) with
          | .error error =>
              Script.release block.writer
              return .error error
          | .ok written =>
              match ← Script.save checkpoint with
              | .error error =>
                  Script.release block.writer
                  return .error error
              | .ok () =>
                  Script.writeView ⟨chain, outputs, none⟩
                  match ← Ledger.submit
                      ⟨block.number, hash, block.previousHash, steps, block.writer⟩ with
                  | .error error => return .error error
                  | .ok () =>
                      Script.count .closed
                      return .ok {
                        number := block.number
                        hash := hash
                        previousHash := block.previousHash
                        time := block.time
                        inputRoot := inputRoot
                        outputRoot := outputRoot
                        rounds := block.rounds
                        items := UInt64.ofNat written.items
                        frozen := round.freeze }

def addRound (block : OpenBlock) : Except Overflow OpenBlock :=
  if block.rounds.toNat + 1 < 2 ^ (32 : Nat) then .ok { block with rounds := block.rounds + 1 }
  else .error .addition

/-- The last round of a block, or a freeze round, closes the block. -/
def endRound (assembler : Assembler) (round : Round) :
    Script (Except StreamError (Option ClosedBlock) × Assembler) := do
  match assembler.checkWritable with
  | .error error => return (.error error, assembler)
  | .ok () =>
      match assembler.phase with
      | .assembling block =>
          let block ← Script.ofOverflow (addRound block)
          if block.rounds < assembler.settings.roundsPerBlock ∧ ¬ round.freeze then
            return (.ok none, { assembler with phase := .assembling block })
          else
            match ← finishBlock block round with
            | .error error => assembler.halt error
            | .ok closed =>
                let phase := if closed.frozen then .frozen closed.number else .idle
                return (.ok (some closed), ⟨assembler.settings, phase, some closed.time⟩)
      | _ => return (.error .noBlockOpen, assembler)

def writeItems (assembler : Assembler) :
    List Item → Script (Except StreamError Unit × Assembler)
  | [] => return (.ok (), assembler)
  | item :: later => do
      match ← assembler.writeItem item with
      | (.error error, after) => return (.error error, after)
      | (.ok (), after) => after.writeItems later

/-- One whole round; the first error ends it. -/
def processRound (assembler : Assembler) (round : Round) :
    Script (Except StreamError (Option ClosedBlock) × Assembler) := do
  match ← assembler.startRound round with
  | (.error error, after) => return (.error error, after)
  | (.ok (), started) =>
      match ← started.writeItems round.items with
      | (.error error, after) => return (.error error, after)
      | (.ok (), fed) => fed.endRound round

end Assembler
end ProvenBlocks
