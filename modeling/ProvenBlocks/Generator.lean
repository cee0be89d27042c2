import ProvenBlocks.Word

/-!
Sources of random draws. Whoever draws relies on nothing but the ranges and lengths that it asks
for; which values come is the choice of the source.
-/

namespace ProvenBlocks

/-- What starts without a seed starts from what this run takes for entropy. -/
structure Generator where
  State : Type
  ofSeed : UInt64 → State
  ofEntropy : State
  /-- From the first number up to but not including the second. -/
  between : UInt64 → UInt64 → State → UInt64 × State
  bytes : Nat → State → Bytes × State
  /-- True in so many cases, of so many. -/
  chance : Nat → Nat → State → Bool × State
  between_range : ∀ {low high : UInt64}, low < high → ∀ state,
    low ≤ (between low high state).1 ∧ (between low high state).1 < high
  bytes_length : ∀ size state, (bytes size state).1.length = size

namespace Generator

/-! ### Draws of the standard library -/

theorem rand_nat_range {low high : Nat} (ordered : low ≤ high) (source : StdGen) :
    low ≤ (randNat source low high).1 ∧ (randNat source low high).1 ≤ high := by
  simp only [randNat, if_neg (Nat.not_lt.mpr ordered)]
  refine ⟨Nat.le_add_right _ _, Nat.add_le_of_le_sub' ordered ?_⟩
  exact Nat.le_of_lt_succ (Nat.mod_lt _ (Nat.succ_pos _))

def standardBetween (low high : UInt64) (source : StdGen) : UInt64 × StdGen :=
  let (drawn, source) := randNat source low.toNat (high.toNat - 1)
  (.ofNat drawn, source)

def standardBytes : Nat → StdGen → Bytes × StdGen
  | 0, source => ([], source)
  | size + 1, source =>
      let (drawn, source) := randNat source 0 255
      let (later, source) := standardBytes size source
      (.ofNat drawn :: later, source)

def standardChance (cases all : Nat) (source : StdGen) : Bool × StdGen :=
  let (drawn, source) := randNat source 0 (all - 1)
  (decide (drawn < cases), source)

theorem standard_between_range {low high : UInt64} (ordered : low < high) (source : StdGen) :
    low ≤ (standardBetween low high source).1 ∧ (standardBetween low high source).1 < high := by
  have less : low.toNat < high.toNat := UInt64.lt_iff_toNat_lt.mp ordered
  obtain ⟨least, most⟩ := rand_nat_range (Nat.le_sub_one_of_lt less) source
  have drawn : (standardBetween low high source).1.toNat =
      (randNat source low.toNat (high.toNat - 1)).1 :=
    UInt64.toNat_ofNat_of_lt' (Nat.lt_of_le_of_lt most (Nat.sub_lt_of_lt high.toNat_lt))
  rw [UInt64.le_iff_toNat_le, UInt64.lt_iff_toNat_lt, drawn]
  omega

theorem standard_bytes_length (size : Nat) (source : StdGen) :
    (standardBytes size source).1.length = size := by
  induction size generalizing source with
  | zero => rfl
  | succ size inductive_hypothesis => exact congrArg (· + 1) (inductive_hypothesis _)

/-- The generator of the standard library. -/
def standard (entropy : Nat) : Generator where
  State := StdGen
  ofSeed := fun seed => mkStdGen seed.toNat
  ofEntropy := mkStdGen entropy
  between := standardBetween
  bytes := standardBytes
  chance := standardChance
  between_range := standard_between_range
  bytes_length := standard_bytes_length

end Generator
end ProvenBlocks
