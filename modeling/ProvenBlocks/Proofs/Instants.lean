import Mathlib.Tactic.Ring
import ProvenBlocks.Instant

/-!
Arithmetic of consensus time. An instant stands for a count of nanoseconds. Adding to it is exact up
to the end of time, and what comes later in the count comes later in the order, if less than one
second of it is in nanoseconds.
-/

namespace ProvenBlocks
namespace Instant

/-- The nanoseconds since second zero. -/
def toNanos (instant : Instant) : Int :=
  instant.seconds.toInt * nanosPerSecond + instant.nanos.toNat

/-- The first count of nanoseconds with more seconds than their word holds. -/
def endOfTime : Int := 2 ^ 63 * nanosPerSecond

/-- Less than one second is in nanoseconds. -/
def IsNormal (instant : Instant) : Prop := instant.nanos.toNat < nanosPerSecond

/-- The normal instant that comes so many nanoseconds later. -/
def later (instant : Instant) (nanos : Nat) : Instant where
  seconds := Int64.ofInt ((instant.toNanos + nanos) / nanosPerSecond)
  nanos := UInt32.ofNat ((instant.toNanos + nanos) % nanosPerSecond).toNat

variable {instant : Instant} {nanos : Nat}

theorem later_nanos (instant : Instant) (nanos : Nat) :
    ((instant.later nanos).nanos.toNat : Int) = (instant.toNanos + nanos) % nanosPerSecond := by
  have positive := Int.emod_nonneg (instant.toNanos + nanos)
    (show (nanosPerSecond : Int) ≠ 0 by decide)
  have bounded := Int.emod_lt_of_pos (instant.toNanos + nanos)
    (show (0 : Int) < nanosPerSecond by decide)
  simp only [nanosPerSecond] at positive bounded
  have word : (UInt32.ofNat ((instant.toNanos + nanos) % nanosPerSecond).toNat).toNat =
      ((instant.toNanos + nanos) % nanosPerSecond).toNat := by
    apply UInt32.toNat_ofNat_of_lt'
    simp only [nanosPerSecond, UInt32.size]
    omega
  rw [later, word]
  exact Int.toNat_of_nonneg positive

theorem later_is_normal (instant : Instant) (nanos : Nat) : (instant.later nanos).IsNormal := by
  have same := instant.later_nanos nanos
  have bounded := Int.emod_lt_of_pos (instant.toNanos + nanos)
    (show (0 : Int) < nanosPerSecond by decide)
  rw [← same] at bounded
  exact Int.ofNat_lt.mp bounded

theorem later_seconds (bounded : instant.toNanos + nanos < endOfTime) :
    (instant.later nanos).seconds.toInt = (instant.toNanos + nanos) / nanosPerSecond := by
  have least := instant.seconds.le_toInt
  apply Int64.toInt_ofInt_of_le
  · rw [Int.le_ediv_iff_mul_le (by decide)]
    simp only [toNanos, nanosPerSecond]
    omega
  · rw [Int.ediv_lt_iff_lt_mul (by decide)]
    exact bounded

/-- Up to the end of time, later instants are exact. -/
theorem to_nanos_later (bounded : instant.toNanos + nanos < endOfTime) :
    (instant.later nanos).toNanos = instant.toNanos + nanos := by
  rw [toNanos, later_seconds bounded, later_nanos]
  exact Int.ediv_mul_add_emod _ _

theorem later_later {more : Nat} (bounded : instant.toNanos + nanos < endOfTime) :
    (instant.later nanos).later more = instant.later (nanos + more) := by
  have same : (instant.later nanos).toNanos + more = instant.toNanos + (nanos + more : Nat) := by
    rw [to_nanos_later bounded]
    omega
  unfold later at same ⊢
  rw [same]

/-- The sum of the nanoseconds has to fit its word, and time must not end. -/
theorem plus_nanos_eq (instant : Instant) (nanos : UInt64) :
    instant.plusNanos nanos =
      if instant.nanos.toNat + nanos.toNat < 2 ^ 64 ∧
          instant.toNanos + nanos.toNat < endOfTime then .ok (instant.later nanos.toNat)
      else .error .addition := by
  have total : instant.toNanos + nanos.toNat =
      (instant.nanos.toNat + nanos.toNat : Nat) + instant.seconds.toInt * nanosPerSecond := by
    rw [toNanos, Nat.cast_add]
    ring
  have seconds : instant.seconds.toInt +
      ((instant.nanos.toNat + nanos.toNat) / nanosPerSecond : Nat) =
        (instant.toNanos + nanos.toNat) / nanosPerSecond := by
    rw [total, Int.add_mul_ediv_right _ _ (by decide), Int.add_comm]
    rfl
  have rest : (instant.nanos.toNat + nanos.toNat) % nanosPerSecond =
      ((instant.toNanos + nanos.toNat) % nanosPerSecond).toNat := by
    rw [total, Int.add_mul_emod_self_right]
    rfl
  have ends : (2 : Int) ^ 63 ≤ (instant.toNanos + nanos.toNat) / nanosPerSecond ↔
      ¬ instant.toNanos + nanos.toNat < endOfTime := by
    rw [Int.le_ediv_iff_mul_le (by decide), Int.not_lt]
    rfl
  simp only [plusNanos, seconds, rest, ends, ← Nat.not_lt, ← not_and_or]
  rw [ite_not]
  rfl

/-- What is later in the count is later in the order. -/
theorem order_later {first second : Instant} (normal : second.IsNormal)
    (before : first.toNanos < second.toNanos) : first.order second = .lt := by
  simp only [toNanos, IsNormal, nanosPerSecond] at normal before
  rcases Int.lt_trichotomy first.seconds.toInt second.seconds.toInt with less | same | more
  · have seconds : compare first.seconds.toInt second.seconds.toInt = .lt :=
      Int.compare_eq_lt.mpr less
    rw [order, seconds]
    rfl
  · have seconds : compare first.seconds.toInt second.seconds.toInt = .eq :=
      Int.compare_eq_eq.mpr same
    have nanos : compare first.nanos.toNat second.nanos.toNat = .lt := by
      apply Nat.compare_eq_lt.mpr
      omega
    rw [order, seconds, nanos]
    rfl
  · omega

/-- Normal instants are ordered as they are counted. -/
theorem counted_of_order {first second : Instant} (normal : first.IsNormal)
    (before : first.order second = .lt) : first.toNanos < second.toNanos := by
  simp only [toNanos, IsNormal, nanosPerSecond] at normal ⊢
  rw [order, Ordering.then_eq_lt, Int.compare_eq_lt, Int.compare_eq_eq, Nat.compare_eq_lt]
    at before
  omega

theorem plus_nanos_ok {instant result : Instant} {nanos : UInt64}
    (added : instant.plusNanos nanos = .ok result) :
    (instant.nanos.toNat + nanos.toNat < 2 ^ 64 ∧ instant.toNanos + nanos.toNat < endOfTime) ∧
      result = instant.later nanos.toNat := by
  rw [plus_nanos_eq] at added
  split at added
  · cases added
    exact ⟨‹_›, rfl⟩
  · cases added

theorem plus_nanos_stops (instant : Instant) (nanos : UInt64) (overflow : Overflow) :
    instant.plusNanos nanos = .error overflow ↔
      overflow = .addition ∧ (2 ^ 64 ≤ instant.nanos.toNat + nanos.toNat ∨
        2 ^ 63 ≤ instant.seconds.toInt +
          ((instant.nanos.toNat + nanos.toNat) / nanosPerSecond : Nat)) := by
  simp only [plusNanos]
  by_cases leaves : 2 ^ 64 ≤ instant.nanos.toNat + nanos.toNat ∨
      2 ^ 63 ≤ instant.seconds.toInt +
        ((instant.nanos.toNat + nanos.toNat) / nanosPerSecond : Nat)
  · rw [if_pos leaves, Except.error.injEq, eq_comm]
    exact (and_iff_left leaves).symm
  · rw [if_neg leaves]
    exact iff_of_false (fun stopped => by cases stopped) fun stopped => leaves stopped.2

/-- What is added at once can be added one after the other: the nanoseconds that are carried into
seconds only leave more room. -/
theorem plus_nanos_both {instant result : Instant} {first second : UInt64}
    (fits : first.toNat + second.toNat < 2 ^ 64)
    (added : instant.plusNanos (first + second) = .ok result) :
    (instant.plusNanos first).bind (fun middle => middle.plusNanos second) = .ok result := by
  have sum : (first + second).toNat = first.toNat + second.toNat := by
    rw [UInt64.toNat_add, Nat.mod_eq_of_lt fits]
  obtain ⟨⟨roomy, timely⟩, rfl⟩ := plus_nanos_ok added
  rw [sum] at roomy timely ⊢
  have early : instant.toNanos + first.toNat < endOfTime := by omega
  have normal := instant.later_is_normal first.toNat
  have carried : (instant.later first.toNat).nanos.toNat ≤ instant.nanos.toNat + first.toNat := by
    have counted := to_nanos_later early
    have seconds := instant.later_nanos first.toNat
    simp only [toNanos, nanosPerSecond] at counted seconds
    omega
  have onward : (instant.later first.toNat).nanos.toNat + second.toNat < 2 ^ 64 := by omega
  have middle : instant.plusNanos first = .ok (instant.later first.toNat) := by
    rw [plus_nanos_eq, if_pos ⟨by omega, early⟩]
  have last : (instant.later first.toNat).toNanos + second.toNat < endOfTime := by
    rw [to_nanos_later early]
    omega
  rw [middle, Except.bind, plus_nanos_eq, if_pos ⟨onward, last⟩, later_later early]

/-- Adding nanoseconds to instants, exactly and up to the ends of two words. -/
structure IsExactAddition (add : Instant → UInt64 → Except Overflow Instant) : Prop where
  /-- The sum of the nanoseconds, or the seconds that it is carried into, leave their word. -/
  stops : ∀ instant nanos overflow, add instant nanos = .error overflow ↔
    overflow = .addition ∧ (2 ^ 64 ≤ instant.nanos.toNat + nanos.toNat ∨
      2 ^ 63 - 1 < instant.seconds.toInt +
        ((instant.nanos.toNat + nanos.toNat) / 1000000000 : Nat))
  normal : ∀ instant nanos result, add instant nanos = .ok result →
    result.nanos.toNat < 1000000000
  exact : ∀ instant nanos result, add instant nanos = .ok result →
    result.seconds.toInt * 1000000000 + result.nanos.toNat =
      instant.seconds.toInt * 1000000000 + instant.nanos.toNat + nanos.toNat
  later : ∀ instant nanos result, add instant nanos = .ok result → 0 < nanos →
    instant.order result = .lt
  /-- If neither side stops, they are equal; the sum of both never goes further than they do. -/
  both : ∀ instant first second result, first.toNat + second.toNat < 2 ^ 64 →
    add instant (first + second) = .ok result →
      (add instant first).bind (fun middle => add middle second) = .ok result
  /-- Normal instants keep their order. -/
  ordered : ∀ first second : Instant, first.IsNormal → second.IsNormal →
    first.order second = .lt → ∀ nanos former latter, add first nanos = .ok former →
      add second nanos = .ok latter → former.order latter = .lt

/-- Adding nanoseconds is exact on all instants, normal or not. -/
theorem plus_nanos_is_exact : IsExactAddition plusNanos := by
  constructor
  · intro instant nanos overflow
    rw [plus_nanos_stops]
    exact and_congr_right fun _ => or_congr_right Int.sub_one_lt_iff.symm
  · intro instant nanos result added
    obtain ⟨_, rfl⟩ := plus_nanos_ok added
    exact later_is_normal _ _
  · intro instant nanos result added
    obtain ⟨⟨_, timely⟩, rfl⟩ := plus_nanos_ok added
    exact to_nanos_later timely
  · intro instant nanos result added positive
    obtain ⟨⟨_, timely⟩, rfl⟩ := plus_nanos_ok added
    apply order_later (later_is_normal _ _)
    rw [to_nanos_later timely]
    have some : 0 < nanos.toNat := UInt64.lt_iff_toNat_lt.mp positive
    omega
  · exact fun instant first second result => plus_nanos_both
  · intro first second firstNormal _ before nanos former latter formerly latterly
    obtain ⟨⟨_, early⟩, rfl⟩ := plus_nanos_ok formerly
    obtain ⟨⟨_, timely⟩, rfl⟩ := plus_nanos_ok latterly
    apply order_later (later_is_normal _ _)
    rw [to_nanos_later early, to_nanos_later timely]
    have counted := counted_of_order firstNormal before
    omega

/-- The order is no order of time where more than a second is in nanoseconds. -/
example : order ⟨0, 2000000000⟩ ⟨1, 0⟩ = .lt ∧
    plusNanos ⟨0, 2000000000⟩ 0 = .ok ⟨2, 0⟩ ∧ plusNanos ⟨1, 0⟩ 0 = .ok ⟨1, 0⟩ :=
  ⟨by decide, rfl, rfl⟩

end Instant
end ProvenBlocks
