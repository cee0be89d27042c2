import ProvenBlocks.Digest
import ProvenBlocks.Instant

/-!
What the stream carries from one block to the next and across restarts: the last closed block and
the trailing output roots and block hashes, oldest first.
-/

namespace ProvenBlocks

structure Checkpoint where
  blockNumber : Option UInt64
  blockTime : Option Instant
  outputRoots : List Digest
  blockHashes : List Digest
  deriving DecidableEq

namespace Checkpoint

def empty : Checkpoint := ⟨none, none, [], []⟩

/-- The newest trailing hash is the hash of the last closed block. -/
def lastHash (checkpoint : Checkpoint) : Option Digest := checkpoint.blockHashes.getLast?

end Checkpoint
end ProvenBlocks
