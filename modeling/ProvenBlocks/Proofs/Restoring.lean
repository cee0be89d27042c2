import ProvenBlocks.Proofs.Resolution
import ProvenBlocks.Proofs.Assembly
import ProvenBlocks.Proofs.Windows

/-!
What a checkpoint restores. A view comes back from the checkpoint that was saved with it, all but
the seed. The seed comes back with the next output root: a history that ever exposed a seed is
full, and gives up one more root.
-/

namespace ProvenBlocks

namespace Chain

/-- How many blocks there are up to the last one. -/
def height (chain : Chain) : Nat :=
  match chain.lastNumber with
  | none => 0
  | some last => last.toNat + 1

variable {chain : Chain}

theorem next_number_height {number : UInt64} (next : chain.nextNumber = .ok number) :
    number.toNat = chain.height := by
  rcases lastNumber : chain.lastNumber with _ | last
  · simp only [nextNumber, lastNumber] at next
    cases next
    simp only [height, lastNumber]
    rfl
  · simp only [nextNumber, lastNumber, checkedSucc, checkedAdd] at next
    simp only [height, lastNumber]
    split at next
    · rename_i fits
      cases next
      exact UnprovenRun.to_nat_succ fits
    · contradiction

/-- Only the last number of all has no successor. -/
theorem next_number_overflow {overflow : Overflow} (next : chain.nextNumber = .error overflow) :
    ∃ last, chain.lastNumber = some last ∧ last.toNat = 2 ^ 64 - 1 := by
  unfold nextNumber at next
  split at next
  · contradiction
  · rename_i last lastNumber
    refine ⟨last, lastNumber, ?_⟩
    have bounded := last.toNat_lt
    by_contra other
    rw [checked_succ_ok (by omega)] at next
    contradiction

end Chain

theorem StreamSettings.rounds_positive {settings : StreamSettings}
    (allowed : settings.validate = .ok ()) : 0 < settings.roundsPerBlock := by
  unfold validate at allowed
  split at allowed
  · contradiction
  · rename_i positive
    exact UInt32.pos_iff_ne_zero.mpr positive

/-- A stream starts with allowed settings and a valid checkpoint only, and then without a seed. -/
theorem Assembler.start_ok {settings : StreamSettings} {startup : Startup}
    {assembler : Assembler} {view : View}
    (started : Assembler.start settings startup = .ok (assembler, view)) :
    settings.validate = .ok () ∧ startup.checkpoint.validate = .ok () ∧
      assembler = ⟨settings, .idle, startup.checkpoint.blockTime⟩ ∧
      view = ⟨Chain.start startup.checkpoint startup.anchor,
        OutputRoots.ofHistory startup.checkpoint.outputRoots, none⟩ := by
  unfold Assembler.start Chain.seeded at started
  rcases allowed : settings.validate with error | _
  · rw [allowed] at started
    contradiction
  · rcases valid : startup.checkpoint.validate with failure | _
    · rw [allowed, valid] at started
      contradiction
    · rw [allowed, valid] at started
      cases started
      exact ⟨rfl, rfl, rfl, rfl⟩

/-- What holds of every view from the start. -/
structure View.Regular (view : View) : Prop where
  hashes : view.chain.history.capacity = hashHistorySize
  retained : view.chain.history.entries.length ≤ view.chain.height
  roots : view.outputs.history.capacity = OutputRoots.historySize
  seeded : view.outputs.seed ≠ none →
    view.outputs.history.entries.length = view.outputs.history.capacity

namespace Checkpoint

/-- The view that a stored checkpoint restores. -/
@[simps]
def view (checkpoint : Checkpoint) : View where
  chain := ⟨Window.ofList hashHistorySize checkpoint.blockHashes,
    some (checkpoint.lastHash.getD Digest.zero), checkpoint.blockNumber⟩
  outputs := OutputRoots.ofHistory checkpoint.outputRoots
  openBlock := none

/-- The newest retained hash is already there, and without one nothing is retained. -/
theorem chain_of_stored (checkpoint : Checkpoint) :
    Chain.start checkpoint (Startup.ofStored (some checkpoint)).anchor = checkpoint.view.chain := by
  rcases last : checkpoint.lastHash with _ | lastHash
  · have nothing : checkpoint.blockHashes = [] := List.getLast?_eq_none_iff.mp last
    simp only [Startup.ofStored, last, Chain.start, view, nothing]
    rfl
  · have newest : (Window.ofList hashHistorySize checkpoint.blockHashes).newest? =
        some lastHash := (Window.of_list_newest _ _).trans last
    simp [Startup.ofStored, last, Startup.resume, Chain.start, newest, view]

theorem start_stored (settings : StreamSettings) (stored : Option Checkpoint) :
    Assembler.start settings (.ofStored stored) = (do
      settings.validate.mapError Failure.stream
      (stored.getD Checkpoint.empty).validate
      .ok (⟨settings, .idle, (stored.getD Checkpoint.empty).blockTime⟩,
        (stored.getD Checkpoint.empty).view)) := by
  rcases stored with _ | checkpoint
  · unfold Assembler.start
    rcases settings.validate with error | _ <;> rfl
  · have kept : (Startup.ofStored (some checkpoint)).checkpoint = checkpoint := by
      simp only [Startup.ofStored]
      split <;> rfl
    unfold Assembler.start Chain.seeded
    rw [kept, chain_of_stored, Option.getD_some]
    rcases settings.validate with error | _
    · rfl
    · rcases checkpoint.validate with failure | _ <;> rfl

theorem start_stored_ok {settings : StreamSettings} {stored : Option Checkpoint}
    {assembler : Assembler} {view : View}
    (started : Assembler.start settings (.ofStored stored) = .ok (assembler, view)) :
    settings.validate = .ok () ∧ (stored.getD Checkpoint.empty).validate = .ok () ∧
      assembler = ⟨settings, .idle, (stored.getD Checkpoint.empty).blockTime⟩ ∧
      view = (stored.getD Checkpoint.empty).view := by
  rw [start_stored] at started
  rcases allowed : settings.validate with error | _
  · rw [allowed] at started
    contradiction
  · rcases valid : (stored.getD Checkpoint.empty).validate with failure | _
    · rw [allowed, valid] at started
      contradiction
    · rw [allowed, valid] at started
      cases started
      exact ⟨rfl, rfl, rfl, rfl⟩

variable {checkpoint : Checkpoint}

/-- A valid checkpoint has a next block and no more hashes than blocks. -/
theorem view_of_valid (valid : checkpoint.validate = .ok ()) :
    checkpoint.blockHashes.length ≤ checkpoint.view.chain.height ∧
      ∃ number, checkpoint.view.chain.nextNumber = .ok number := by
  rcases last : checkpoint.blockNumber with _ | number
  · simp only [validate, last] at valid
    split at valid
    · rename_i nothing
      constructor
      · exact Nat.le_trans (Nat.le_of_eq nothing) (Nat.zero_le _)
      · exact ⟨0, by simp only [Chain.nextNumber, view_chain_lastNumber, last]⟩
    · contradiction
  · simp only [validate, last] at valid
    split at valid
    · contradiction
    · rename_i blocks succ
      have next : checkpoint.view.chain.nextNumber = .ok blocks := by
        simp only [Chain.nextNumber, view_chain_lastNumber, last]
        exact succ
      have reached := Chain.next_number_height next
      split at valid
      · contradiction
      · rename_i enough
        exact ⟨by omega, blocks, next⟩

theorem regular_view (valid : checkpoint.validate = .ok ()) : checkpoint.view.Regular where
  hashes := Window.of_list_capacity _ _
  retained := Nat.le_trans (Window.of_list_length _ _) (view_of_valid valid).1
  roots := Window.of_list_capacity _ _
  seeded := fun seed => absurd rfl seed

/-- Only after the last number of all is a checkpoint with no more hashes than blocks refused. -/
theorem validate_retained (checkpoint : Checkpoint) {number : UInt64}
    (last : checkpoint.blockNumber = some number)
    (retained : checkpoint.blockHashes.length ≤ number.toNat + 1) :
    checkpoint.validate = .ok () ∨
      checkpoint.validate = .error (.overflow .addition) ∧ number.toNat = 2 ^ 64 - 1 := by
  have bounded := number.toNat_lt
  simp only [validate, last]
  by_cases greatest : number.toNat = 2 ^ 64 - 1
  · rw [checked_succ_overflow greatest]
    exact .inr ⟨rfl, greatest⟩
  · rw [checked_succ_ok (by omega)]
    have blocks : (number + 1).toNat = number.toNat + 1 := UnprovenRun.to_nat_succ (by omega)
    exact .inl (if_neg (by omega))

end Checkpoint

namespace View

/-- What readers see once a block is opened. -/
@[simps]
def opened (view : View) (number : UInt64) : View :=
  { view with outputs := view.outputs.reset, openBlock := some number }

variable {view : View}

theorem Regular.opened (regular : view.Regular) (number : UInt64) :
    (view.opened number).Regular :=
  ⟨regular.hashes, regular.retained, regular.roots, regular.seeded⟩

theorem Regular.add (regular : view.Regular) (item : Item) : (view.add item).Regular := by
  unfold View.add
  split
  · exact ⟨regular.hashes, regular.retained, regular.roots, regular.seeded⟩
  · exact regular
  · exact regular

theorem Regular.close (regular : view.Regular) {block : OpenBlock}
    (next : block.number.toNat = view.chain.height) : (view.close block).Regular where
  hashes := (Window.push_capacity _ _).trans regular.hashes
  retained := by
    have pushed := Window.push_length view.chain.history (block.hash view)
    have retained := regular.retained
    simp only [Chain.height, View.close_chain_history, View.close_chain_lastNumber]
    omega
  roots := (Window.push_capacity _ _).trans regular.roots
  seeded := by
    intro seed
    simp only [View.close_outputs, OutputRoots.finish, Window.push_capacity] at seed ⊢
    -- a root falls out of a full history only, and so did an earlier seed
    by_cases full : view.outputs.history.entries.length = view.outputs.history.capacity
    · exact (Window.push_full _ _ full).2
    · rw [Window.push_not_full _ _ full, Option.none_or] at seed
      exact absurd (regular.seeded seed) full

/-- The first view knows what the second one knows, unless the next output root tells it. -/
structure Agrees (restored full : View) : Prop where
  chain : restored.chain = full.chain
  openBlock : restored.openBlock = full.openBlock
  running : restored.outputs.running = full.outputs.running
  history : restored.outputs.history = full.outputs.history
  seed : restored.outputs.seed = full.outputs.seed ∨
    full.outputs.history.entries.length = full.outputs.history.capacity

namespace Agrees

variable {restored full : View}

theorem refl (view : View) : view.Agrees view := ⟨rfl, rfl, rfl, rfl, .inl rfl⟩

theorem opened (agrees : restored.Agrees full) (number : UInt64) :
    (restored.opened number).Agrees (full.opened number) :=
  ⟨agrees.chain, rfl, rfl, agrees.history, agrees.seed⟩

theorem add (agrees : restored.Agrees full) (item : Item) :
    (restored.add item).Agrees (full.add item) := by
  unfold View.add
  split
  · exact ⟨agrees.chain, agrees.openBlock, by simp only [OutputRoots.add, agrees.running],
      agrees.history, agrees.seed⟩
  · exact agrees
  · exact agrees

theorem hash (agrees : restored.Agrees full) (block : OpenBlock) :
    block.hash restored = block.hash full := by
  simp only [OpenBlock.hash, OpenBlock.steps, agrees.running]

/-- Once a block is closed there is no difference left. -/
theorem close (agrees : restored.Agrees full) (block : OpenBlock) :
    restored.close block = full.close block := by
  have outputs : restored.outputs.finish = full.outputs.finish := by
    simp only [OutputRoots.finish, agrees.running, agrees.history]
    rcases agrees.seed with same | full
    · rw [same]
    · obtain ⟨oldest, evicted⟩ := Option.isSome_iff_exists.mp (Window.push_full _ _ full).1
      rw [evicted]
      rfl
  simp only [View.close, agrees.hash, agrees.chain, outputs]

end Agrees
end View

/-- A closed block with the view that it left. -/
structure Closing where
  block : ClosedBlock
  view : View

namespace Closing

/-- The checkpoint saved for the block. -/
@[simps]
def checkpoint (closing : Closing) : Checkpoint where
  blockNumber := closing.view.chain.lastNumber
  blockTime := some closing.block.time
  outputRoots := closing.view.outputs.trailing
  blockHashes := closing.view.chain.trailing

/-- The block is the newest one of a regular view, and no other block is open. -/
structure Settled (closing : Closing) : Prop where
  regular : closing.view.Regular
  number : closing.view.chain.lastNumber = some closing.block.number
  prior : closing.view.chain.prior = some closing.block.hash
  newest : closing.view.chain.history.entries.getLast? = some closing.block.hash
  hidden : closing.view.openBlock = none
  running : closing.view.outputs.running = RunningDigest.empty

variable {closing : Closing}

theorem restored_agrees (settled : closing.Settled) :
    closing.checkpoint.view.Agrees closing.view where
  chain := by
    have hashes := Window.of_list_to_list hashHistorySize settled.regular.hashes
    have last : closing.checkpoint.lastHash = some closing.block.hash := settled.newest
    rw [Checkpoint.view, last, Option.getD_some, ← settled.prior]
    simp only [checkpoint_blockHashes, checkpoint_blockNumber, Chain.trailing, hashes]
  openBlock := settled.hidden.symm
  running := settled.running.symm
  history := Window.of_list_to_list OutputRoots.historySize settled.regular.roots
  seed := by
    by_cases known : closing.view.outputs.seed = none
    · exact .inl known.symm
    · exact .inr (settled.regular.seeded known)

/-- A stream starts again from what was saved last, unless no number is left. -/
theorem start_again {settings : StreamSettings} (allowed : settings.validate = .ok ())
    (settled : closing.Settled) :
    Assembler.start settings (.ofStored (some closing.checkpoint)) =
        .ok (⟨settings, .idle, some closing.block.time⟩, closing.checkpoint.view) ∨
      Assembler.start settings (.ofStored (some closing.checkpoint)) =
        .error (.overflow .addition) ∧ closing.block.number.toNat = 2 ^ 64 - 1 := by
  have retained := settled.regular.retained
  simp only [Chain.height, settled.number] at retained
  rw [Checkpoint.start_stored, allowed, Option.getD_some]
  rcases closing.checkpoint.validate_retained settled.number retained with
    valid | ⟨refused, greatest⟩
  · rw [valid]
    exact .inl rfl
  · rw [refused]
    exact .inr ⟨rfl, greatest⟩

end Closing
end ProvenBlocks
