import ProvenBlocks.Item

/-!
How calls on the stream end without a value: an error of the stream, or a sum or difference that
left its word.
-/

namespace ProvenBlocks

inductive StreamError where
  | uninitializedChain
  | noBlockOpen
  | frozen (block : UInt64)
  | halted (reason : String)
  | writer (block : UInt64) (reason : String)
  | stateStore (reason : String)
  | serialization (reason : String)
  | invalidItem (kind : ItemKind)
  | nonContiguous (expected actual : UInt64)
  | invalidSettings (reason : String)
  | inconsistentState (reason : String)
  deriving DecidableEq

namespace StreamError

def name : StreamError → String
  | .uninitializedChain => "UninitializedChain"
  | .noBlockOpen => "NoBlockOpen"
  | .frozen _ => "Frozen"
  | .halted _ => "Halted"
  | .writer _ _ => "Writer"
  | .stateStore _ => "StateStore"
  | .serialization _ => "Serialization"
  | .invalidItem _ => "InvalidItem"
  | .nonContiguous _ _ => "NonContiguousBlock"
  | .invalidSettings _ => "InvalidConfig"
  | .inconsistentState _ => "InconsistentState"

def message : StreamError → String
  | .uninitializedChain =>
      "Block hash chain not initialized: no last block hash or genesis seed supplied"
  | .noBlockOpen => "No block is open"
  | .frozen block => "Block stream frozen after block " ++ toString block
  | .halted reason => "Block stream halted: " ++ reason
  | .writer block reason => "Writer failed for block " ++ toString block ++ ": " ++ reason
  | .stateStore reason => "State store error: " ++ reason
  | .serialization reason => "Serialization error: " ++ reason
  | .invalidItem kind =>
      "Invalid item: " ++ kind.name ++ " items are produced by the block stream"
  | .nonContiguous expected actual =>
      "Non-contiguous block: expected " ++ toString expected ++ ", got " ++ toString actual
  | .invalidSettings reason => "Invalid configuration: " ++ reason
  | .inconsistentState reason => "Inconsistent state: " ++ reason

/-- A fatal error stops production for good. -/
def isFatal : StreamError → Bool
  | .writer _ _ | .stateStore _ | .serialization _ | .nonContiguous _ _
  | .inconsistentState _ | .halted _ => true
  | .uninitializedChain | .noBlockOpen | .frozen _ | .invalidItem _ | .invalidSettings _ => false

end StreamError

inductive Failure where
  | stream (error : StreamError)
  | overflow (overflow : Overflow)
  deriving DecidableEq

end ProvenBlocks
