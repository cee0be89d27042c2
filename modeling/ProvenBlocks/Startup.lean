import ProvenBlocks.Failure
import ProvenBlocks.OutputRoots

/-!
What a stream starts from: a checkpoint and the anchor of its chain.
-/

namespace ProvenBlocks

/-- What the next block builds on: the hash of the last block, or the zero digest. -/
inductive Anchor where
  | resume (lastHash : Digest)
  | genesis
  deriving DecidableEq

structure Startup where
  checkpoint : Checkpoint
  anchor : Option Anchor

def hashHistorySize : Nat := 256

namespace Checkpoint

def nextNumber (checkpoint : Checkpoint) : Except Overflow UInt64 :=
  match checkpoint.blockNumber with
  | none => .ok 0
  | some number => checkedSucc number

/-- A checkpoint has no hashes without a block and no more hashes than blocks. -/
def validate (checkpoint : Checkpoint) : Except Failure Unit :=
  let retained := checkpoint.blockHashes.length
  match checkpoint.blockNumber with
  | none =>
      if retained = 0 then .ok ()
      else .error (.stream (.inconsistentState
        (toString retained ++ " trailing block hashes but no closed block")))
  | some number =>
      match checkedSucc number with
      | .error overflow => .error (.overflow overflow)
      | .ok blocks =>
          if blocks.toNat < retained then
            .error (.stream (.inconsistentState
              (toString retained ++ " trailing block hashes for " ++ toString blocks
                ++ " blocks")))
          else .ok ()

def exceedsWindows (checkpoint : Checkpoint) : Bool :=
  OutputRoots.historySize < checkpoint.outputRoots.length
    || hashHistorySize < checkpoint.blockHashes.length

end Checkpoint

namespace Startup

def genesis : Startup := ⟨Checkpoint.empty, some .genesis⟩

def resume (checkpoint : Checkpoint) (lastHash : Digest) : Startup :=
  ⟨checkpoint, some (.resume lastHash)⟩

def unanchored (checkpoint : Checkpoint) : Startup := ⟨checkpoint, none⟩

/-- Resumes after the newest retained hash; without one the chain starts anew. -/
def ofStored : Option Checkpoint → Startup
  | none => genesis
  | some checkpoint =>
      match checkpoint.lastHash with
      | some lastHash => resume checkpoint lastHash
      | none => ⟨checkpoint, some .genesis⟩

end Startup
end ProvenBlocks
