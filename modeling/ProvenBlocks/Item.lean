import ProvenBlocks.Checkpoint

/-!
The items of a block: a header first, what consensus delivered, the state changes at the boundary,
and a proof last.
-/

namespace ProvenBlocks

inductive DigestAlgorithm where
  | sha384
  deriving DecidableEq

structure Header where
  number : UInt64
  openedAt : Instant
  previousHash : Digest
  softwareVersion : String
  algorithm : DigestAlgorithm
  deriving DecidableEq

structure Transaction where
  content : Bytes
  deriving DecidableEq

inductive Outcome where
  | success
  | failed
  deriving DecidableEq

def Outcome.name : Outcome → String
  | .success => "Success"
  | .failed => "Failed"

structure TransactionResult where
  outcome : Outcome
  time : Instant
  fee : UInt64
  deriving DecidableEq

inductive StateValue where
  | streamInfo (checkpoint : Checkpoint)
  | raw (content : Bytes)
  deriving DecidableEq

structure StateChange where
  name : String
  value : StateValue
  deriving DecidableEq

structure StateChanges where
  time : Instant
  changes : List StateChange
  deriving DecidableEq

structure RecordFile where
  createdAt : Instant
  content : Bytes
  deriving DecidableEq

structure BlockProof where
  block : UInt64
  previousHash : Digest
  signature : Bytes
  siblings : List Digest
  deriving DecidableEq

inductive Item where
  | header (header : Header)
  | transaction (transaction : Transaction)
  | result (result : TransactionResult)
  | stateChanges (changes : StateChanges)
  | recordFile (file : RecordFile)
  | proof (proof : BlockProof)
  deriving DecidableEq

inductive ItemKind where
  | header
  | transaction
  | result
  | stateChanges
  | recordFile
  | proof
  deriving DecidableEq

def ItemKind.name : ItemKind → String
  | .header => "BlockHeader"
  | .transaction => "EventTransaction"
  | .result => "TransactionResult"
  | .stateChanges => "StateChanges"
  | .recordFile => "RecordFile"
  | .proof => "BlockProof"

/-- Headers and proofs are written by the stream alone. -/
def ItemKind.isManaged : ItemKind → Bool
  | .header | .proof => true
  | .transaction | .result | .stateChanges | .recordFile => false

/-- The two running digests of an open block. -/
inductive Root where
  | input
  | output
  deriving DecidableEq

def Root.name : Root → String
  | .input => "Input"
  | .output => "Output"

namespace Item

def kind : Item → ItemKind
  | .header _ => .header
  | .transaction _ => .transaction
  | .result _ => .result
  | .stateChanges _ => .stateChanges
  | .recordFile _ => .recordFile
  | .proof _ => .proof

def isManaged (item : Item) : Bool := item.kind.isManaged

/-- Transactions feed the input root and their results the output root. -/
def root : Item → Option Root
  | .transaction _ => some .input
  | .result _ => some .output
  | .header _ | .stateChanges _ | .recordFile _ | .proof _ => none

end Item
end ProvenBlocks
