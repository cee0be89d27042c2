import ProvenBlocks.Proofs.Restoring

/-!
What readers are answered. A hash is found by its distance from the newest one, so a block that is
appended to the chain answers for its own number and leaves the answers for all others alone, or
takes them away.
-/

namespace ProvenBlocks
namespace Chain

/-- Hashes are counted from the newest one back. -/
theorem hash_of_back {chain : Chain} {last : UInt64} (lastNumber : chain.lastNumber = some last)
    {number : UInt64} (reached : number.toNat ≤ last.toNat) :
    chain.hashOf number = chain.history.entries.reverse[last.toNat - number.toNat]? := by
  unfold hashOf Window.get? Window.size
  rw [lastNumber]
  dsimp only
  by_cases retained : chain.history.entries.length ≤ last.toNat - number.toNat
  · rw [if_pos (Or.inr retained), List.getElem?_eq_none]
    rwa [List.length_reverse]
  · rw [if_neg (by omega), List.getElem?_reverse (by omega)]

/-- There is no hash for a number that has not been reached. -/
theorem hash_of_above {chain : Chain} {number : UInt64} (above : chain.height ≤ number.toNat) :
    chain.hashOf number = none := by
  rcases lastNumber : chain.lastNumber with _ | last
  · simp only [hashOf, lastNumber]
  · simp only [height, lastNumber] at above
    simp only [hashOf, lastNumber]
    exact if_pos (.inl above)

/-- The chain after a block was appended. -/
@[simps]
def extended (chain : Chain) (number : UInt64) (hash : Digest) : Chain :=
  ⟨(chain.history.push hash).2, some hash, some number⟩

/-- Nothing but the next block is appended. -/
theorem append_ok {chain after : Chain} {number : UInt64} {hash : Digest}
    {evicted : Option Digest} (appended : chain.append number hash = .ok (evicted, after)) :
    chain.nextNumber = .ok number ∧ after = chain.extended number hash := by
  unfold append at appended
  split at appended
  · split at appended
    · contradiction
    · rename_i expected next
      split at appended
      · rename_i same
        cases appended
        exact ⟨by rw [next, same], rfl⟩
      · contradiction
  · contradiction

theorem extended_reverse (chain : Chain) (number : UInt64) (hash : Digest) :
    (chain.extended number hash).history.entries.reverse =
      (hash :: chain.history.entries.reverse).take chain.history.capacity := by
  rw [extended_history, Window.push_entries, List.rtake_eq_reverse_take_reverse,
    List.reverse_reverse, List.reverse_append]
  rfl

theorem hash_of_extended (chain : Chain) (number : UInt64) (hash : Digest) :
    (chain.extended number hash).hashOf number = some hash := by
  rw [hash_of_back rfl (Nat.le_refl _), extended_reverse, Nat.sub_self,
    List.getElem?_take_of_lt chain.history.positive]
  rfl

theorem last_hash_extended (chain : Chain) (number : UInt64) (hash : Digest) :
    (chain.extended number hash).lastHash = some hash := chain.hash_of_extended number hash

/-- No answer for another number is new. -/
theorem hash_of_extended_other {chain : Chain} {number other : UInt64} {hash found : Digest}
    (next : chain.nextNumber = .ok number) (different : other ≠ number)
    (answer : (chain.extended number hash).hashOf other = some found) :
    chain.hashOf other = some found := by
  have height := next_number_height next
  have apart : other.toNat ≠ number.toNat := fun same => different (UInt64.toNat_inj.mp same)
  rcases Nat.lt_or_gt_of_ne apart with below | above
  · rcases lastNumber : chain.lastNumber with _ | last
    · simp only [Chain.height, lastNumber] at height
      omega
    · simp only [Chain.height, lastNumber] at height
      have further : number.toNat - other.toNat = last.toNat - other.toNat + 1 := by omega
      rw [hash_of_back rfl (Nat.le_of_lt below), extended_reverse, further,
        List.getElem?_take] at answer
      rw [hash_of_back lastNumber (by omega)]
      split at answer
      · exact answer
      · contradiction
  · have unreached : (chain.extended number hash).height ≤ other.toNat := above
    rw [hash_of_above unreached] at answer
    contradiction

/-! ### At the start -/

theorem start_capacity (checkpoint : Checkpoint) (anchor : Option Anchor) :
    (start checkpoint anchor).history.capacity = hashHistorySize := by
  unfold start
  split
  · exact Window.of_list_capacity _ _
  · dsimp only
    split
    · rw [Window.push_capacity]
      exact Window.of_list_capacity _ _
    · exact Window.of_list_capacity _ _
  · rfl

theorem start_last_number (checkpoint : Checkpoint) (anchor : Option Anchor) :
    (start checkpoint anchor).lastNumber = checkpoint.blockNumber := by
  unfold start
  split <;> rfl

end Chain
end ProvenBlocks
