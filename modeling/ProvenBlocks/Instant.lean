import ProvenBlocks.Word

/-!
Points of consensus time: signed seconds and a count of nanoseconds, which need not be below one
second. Adding nanoseconds carries whole seconds and leaves less than one second.
-/

namespace ProvenBlocks

-- A power means the same beside an algebra library.
attribute [local instance (20000)] instPowNat

structure Instant where
  seconds : Int64
  nanos : UInt32
  deriving DecidableEq

namespace Instant

def nanosPerSecond : Nat := 1000000000

def plusNanos (instant : Instant) (nanos : UInt64) : Except Overflow Instant :=
  let total := instant.nanos.toNat + nanos.toNat
  let seconds := instant.seconds.toInt + (total / nanosPerSecond : Nat)
  if 2 ^ (64 : Nat) ≤ total ∨ 2 ^ (63 : Nat) ≤ seconds then .error .addition
  else .ok ⟨Int64.ofInt seconds, UInt32.ofNat (total % nanosPerSecond)⟩

/-- Seconds decide; equal seconds leave it to the nanoseconds. -/
def order (left right : Instant) : Ordering :=
  (compare left.seconds.toInt right.seconds.toInt).then
    (compare left.nanos.toNat right.nanos.toNat)

end Instant
end ProvenBlocks
