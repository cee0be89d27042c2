import ProvenBlocks.Startup

/-!
The chain of block hashes. A block hash folds the prior block hash through the block's steps, and
the newest 256 hashes stay available by block number.
-/

namespace ProvenBlocks

structure Chain where
  history : Window
  prior : Option Digest
  lastNumber : Option UInt64

namespace Chain

/-- The input root comes first and the output root last. -/
def steps (inputRoot outputRoot : Digest) : List Digest := [inputRoot, outputRoot]

def unseeded : Chain := ⟨Window.empty hashHistorySize, none, none⟩

def start (checkpoint : Checkpoint) : Option Anchor → Chain
  | none => ⟨Window.ofList hashHistorySize checkpoint.blockHashes, none, checkpoint.blockNumber⟩
  | some (.resume lastHash) =>
      let history := Window.ofList hashHistorySize checkpoint.blockHashes
      let history :=
        if checkpoint.blockNumber.isSome ∧ history.newest? ≠ some lastHash then
          (history.push lastHash).2
        else history
      ⟨history, some lastHash, checkpoint.blockNumber⟩
  | some .genesis =>
      ⟨Window.empty hashHistorySize, some Digest.zero, checkpoint.blockNumber⟩

def seeded (startup : Startup) : Except Failure Chain := do
  startup.checkpoint.validate
  .ok (start startup.checkpoint startup.anchor)

def isInitialized (chain : Chain) : Bool := chain.prior.isSome

def nextNumber (chain : Chain) : Except Overflow UInt64 :=
  match chain.lastNumber with
  | none => .ok 0
  | some number => checkedSucc number

def nextHash (chain : Chain) (blockSteps : List Digest) : Except StreamError Digest :=
  match chain.prior with
  | none => .error .uninitializedChain
  | some prior => .ok (prior.linkAll blockSteps)

/-- Only the next number may be appended; the oldest retained hash may fall out. -/
def append (chain : Chain) (number : UInt64) (hash : Digest) :
    Except Failure (Option Digest × Chain) :=
  if chain.isInitialized then
    match chain.nextNumber with
    | .error overflow => .error (.overflow overflow)
    | .ok expected =>
        if number = expected then
          let (evicted, history) := chain.history.push hash
          .ok (evicted, ⟨history, some hash, some number⟩)
        else .error (.stream (.nonContiguous expected number))
  else .error (.stream .uninitializedChain)

/-- Appends the block with these roots under the next number. -/
def close (chain : Chain) (inputRoot outputRoot : Digest) :
    Except Failure ((Digest × Option Digest) × Chain) := do
  let hash ← (chain.nextHash (steps inputRoot outputRoot)).mapError Failure.stream
  let number ← chain.nextNumber.mapError Failure.overflow
  let (evicted, after) ← chain.append number hash
  .ok ((hash, evicted), after)

def hashOf (chain : Chain) (number : UInt64) : Option Digest :=
  match chain.lastNumber with
  | none => none
  | some last =>
      let retained := chain.history.size
      let back := last.toNat - number.toNat
      if last.toNat < number.toNat ∨ retained ≤ back then none
      else chain.history.get? (retained - 1 - back)

def lastHash (chain : Chain) : Option Digest := chain.lastNumber.bind chain.hashOf

/-- The successor of the last number less the number of retained hashes. -/
def oldestRetained (chain : Chain) : Except Overflow (Option UInt64) :=
  match chain.lastNumber with
  | none => .ok none
  | some last =>
      if chain.history.size = 0 then .ok none
      else do
        let next ← checkedSucc last
        let oldest ← checkedSub next (UInt64.ofNat chain.history.size)
        .ok (some oldest)

def trailing (chain : Chain) : List Digest := chain.history.toList

def retained (chain : Chain) : Nat := chain.history.size

end Chain
end ProvenBlocks
