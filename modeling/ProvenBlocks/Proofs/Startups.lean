import ProvenBlocks.Proofs.Queries
import ProvenBlocks.Proofs.Restoring

/-!
Starting from any checkpoint at all. A stream starts or is told how the checkpoint contradicts
itself, whatever its anchor, as long as there is a number left for the next block. The greatest
number of all leaves none: then the start stops, contradiction or not.
-/

namespace ProvenBlocks

namespace Checkpoint

/-- What becomes of a checkpoint on the way to a value. -/
inductive Outcome {α : Type} (checkpoint : Checkpoint) (value : α) : Except Failure α → Prop
  | accepted (next : UInt64) (number : checkpoint.nextNumber = .ok next)
      (retained : checkpoint.blockHashes.length ≤ next.toNat) : Outcome checkpoint value (.ok value)
  /-- There are hashes without a block. -/
  | blockless (nothing : checkpoint.blockNumber = none)
      (retained : checkpoint.blockHashes ≠ []) :
      Outcome checkpoint value (.error (.stream (.inconsistentState
        (toString checkpoint.blockHashes.length ++ " trailing block hashes but no closed block"))))
  /-- There are more hashes than blocks. -/
  | overfull (last next : UInt64) (closed : checkpoint.blockNumber = some last)
      (number : checkpoint.nextNumber = .ok next)
      (retained : next.toNat < checkpoint.blockHashes.length) :
      Outcome checkpoint value (.error (.stream (.inconsistentState
        (toString checkpoint.blockHashes.length ++ " trailing block hashes for " ++ toString next
          ++ " blocks"))))
  | stopped (last : UInt64) (closed : checkpoint.blockNumber = some last)
      (greatest : last.toNat = 2 ^ 64 - 1) :
      Outcome checkpoint value (.error (.overflow .addition))

variable (checkpoint : Checkpoint)

theorem validate_outcome : checkpoint.Outcome () checkpoint.validate := by
  rcases closed : checkpoint.blockNumber with _ | last
  · simp only [validate, closed]
    split
    · rename_i nothing
      refine .accepted 0 (by simp only [nextNumber, closed]) ?_
      rw [nothing]
      exact Nat.zero_le _
    · rename_i retained
      exact .blockless closed fun nothing => retained (by rw [nothing]; rfl)
  · by_cases greatest : last.toNat = 2 ^ 64 - 1
    · simp only [validate, closed, checked_succ_overflow greatest]
      exact .stopped last closed greatest
    · have bounded : last.toNat < 2 ^ 64 - 1 := by
        have word := last.toNat_lt
        omega
      have number : checkpoint.nextNumber = .ok (last + 1) := by
        simp only [nextNumber, closed, checked_succ_ok bounded]
      simp only [validate, closed, checked_succ_ok bounded]
      split
      · rename_i retained
        exact .overfull last (last + 1) closed number retained
      · rename_i retained
        exact .accepted (last + 1) number (Nat.le_of_not_lt retained)

variable {checkpoint}

theorem Outcome.map {α : Type} {verdict : Except Failure Unit}
    (outcome : checkpoint.Outcome () verdict) (value : α) :
    checkpoint.Outcome value (verdict.map fun _ => value) := by
  cases outcome with
  | accepted next number retained => exact .accepted next number retained
  | blockless nothing retained => exact .blockless nothing retained
  | overfull last next closed number retained => exact .overfull last next closed number retained
  | stopped last closed greatest => exact .stopped last closed greatest

end Checkpoint

namespace Assembler

/-- What a stream starts with if it starts. -/
def begin (settings : StreamSettings) (startup : Startup) : Assembler × View :=
  (⟨settings, .idle, startup.checkpoint.blockTime⟩,
    ⟨Chain.start startup.checkpoint startup.anchor,
      OutputRoots.ofHistory startup.checkpoint.outputRoots, none⟩)

theorem start_validates {settings : StreamSettings} (allowed : settings.validate = .ok ())
    (startup : Startup) :
    start settings startup =
      startup.checkpoint.validate.map fun _ => begin settings startup := by
  unfold start Chain.seeded
  rw [allowed]
  rcases startup.checkpoint.validate with failure | _ <;> rfl

end Assembler

/-- What is stored is started from as it is. -/
theorem Startup.of_stored_checkpoint (checkpoint : Checkpoint) :
    (ofStored (some checkpoint)).checkpoint = checkpoint := by
  simp only [ofStored]
  split <;> rfl

namespace Assembler

theorem start_outcome {settings : StreamSettings} (allowed : settings.validate = .ok ())
    (startup : Startup) :
    startup.checkpoint.Outcome (begin settings startup) (start settings startup) := by
  rw [start_validates allowed]
  exact startup.checkpoint.validate_outcome.map _

/-- With allowed settings a stream starts from a checkpoint, or the checkpoint contradicts itself,
or the next block has no number. The chain counts on where the checkpoint ends. -/
theorem every_checkpoint_starts_or_is_refused {settings : StreamSettings}
    (allowed : settings.validate = .ok ()) (checkpoint : Checkpoint) :
    (∀ anchor, checkpoint.Outcome (begin settings ⟨checkpoint, anchor⟩)
      (start settings ⟨checkpoint, anchor⟩)) ∧
    checkpoint.Outcome (begin settings (.ofStored (some checkpoint)))
      (start settings (.ofStored (some checkpoint))) ∧
    ∀ anchor, (Chain.start checkpoint anchor).nextNumber = checkpoint.nextNumber := by
  refine ⟨fun anchor => start_outcome allowed ⟨checkpoint, anchor⟩, ?_, ?_⟩
  · have stored := start_outcome allowed (.ofStored (some checkpoint))
    rw [Startup.of_stored_checkpoint] at stored
    exact stored
  · intro anchor
    rw [Chain.nextNumber, Chain.start_last_number]
    rfl

/-- A hash for each of two blocks, and one hash too many. -/
theorem hashes_of_two_blocks :
    StreamSettings.default.validate = .ok () ∧
      ∃ fitting overfull : Checkpoint, fitting.blockHashes.length = 2 ∧
        overfull.blockHashes.length = 3 ∧
        fitting.nextNumber = .ok 2 ∧ overfull.nextNumber = .ok 2 ∧
        (∀ anchor, fitting.Outcome (begin .default ⟨fitting, anchor⟩)
          (start .default ⟨fitting, anchor⟩)) ∧
        ∀ anchor, overfull.Outcome (begin .default ⟨overfull, anchor⟩)
          (start .default ⟨overfull, anchor⟩) :=
  ⟨by decide, ⟨some 1, none, [], [.zero, .zero]⟩, ⟨some 1, none, [], [.zero, .zero, .zero]⟩,
    by decide, by decide, rfl, rfl,
    (every_checkpoint_starts_or_is_refused (by decide) _).1,
    (every_checkpoint_starts_or_is_refused (by decide) _).1⟩

/-- The checkpoint after the greatest number of all contradicts itself nowhere. -/
theorem greatest_number_stops_start :
    ∃ checkpoint : Checkpoint,
      checkpoint.blockNumber.map UInt64.toNat = some (2 ^ 64 - 1) ∧
      checkpoint.blockHashes = [] ∧ StreamSettings.default.validate = .ok () ∧
      (∀ anchor, start .default ⟨checkpoint, anchor⟩ = .error (.overflow .addition)) ∧
      start .default (.ofStored (some checkpoint)) = .error (.overflow .addition) :=
  ⟨⟨some 18446744073709551615, none, [], []⟩, by decide, rfl, by decide, fun _ => rfl, rfl⟩

end Assembler
end ProvenBlocks
