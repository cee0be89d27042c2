import ProvenBlocks.Decimal.Double
import ProvenBlocks.Word

/-!
Counters of what the stream and its proofs have done. Each wraps at the end of its word.
-/

namespace ProvenBlocks

structure Counters where
  opened : UInt64
  closed : UInt64
  items : UInt64
  requests : UInt64
  direct : UInt64
  indirect : UInt64
  ignored : UInt64
  deriving DecidableEq

inductive Counter where
  | opened
  | closed
  | items
  | requests
  | direct
  | indirect
  | ignored
  deriving DecidableEq

/-- In the order in which they are reported. -/
def Counter.all : List Counter :=
  [.opened, .closed, .items, .requests, .direct, .indirect, .ignored]

namespace Counters

def zero : Counters := ⟨0, 0, 0, 0, 0, 0, 0⟩

def get (counters : Counters) : Counter → UInt64
  | .opened => counters.opened
  | .closed => counters.closed
  | .items => counters.items
  | .requests => counters.requests
  | .direct => counters.direct
  | .indirect => counters.indirect
  | .ignored => counters.ignored

def set (counters : Counters) (value : UInt64) : Counter → Counters
  | .opened => { counters with opened := value }
  | .closed => { counters with closed := value }
  | .items => { counters with items := value }
  | .requests => { counters with requests := value }
  | .direct => { counters with direct := value }
  | .indirect => { counters with indirect := value }
  | .ignored => { counters with ignored := value }

def increment (counters : Counters) (counter : Counter) : Counters :=
  counters.set (counters.get counter + 1) counter

/-- Closed blocks without a written proof, never below zero. -/
def unproven (counters : Counters) : Except Overflow UInt64 := do
  let proven ← checkedAdd counters.direct counters.indirect
  .ok (if proven.toNat ≤ counters.closed.toNat then counters.closed - proven else 0)

/-- Items of a closed block on the average, as a division of doubles gives it. -/
def averageItems (counters : Counters) : Fraction :=
  let double := fun (count : UInt64) => (Fraction.whole count.toNat).nearestDouble
  if counters.closed = 0 then .whole 0
  else ((double counters.items).dividedBy (double counters.closed)).nearestDouble

end Counters
end ProvenBlocks
