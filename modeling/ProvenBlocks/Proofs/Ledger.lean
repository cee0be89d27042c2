import ProvenBlocks.Ledger
import ProvenBlocks.Proofs.Script

/-!
What the ledger can do: take over a closed block or refuse it, and write the proofs of the blocks
that a signature resolves, each through a writer that may fail.
-/

namespace ProvenBlocks
namespace Ledger

variable {σ : Type} (platform : Platform σ)

/-! ### Taking over closed blocks -/

inductive Submitted (platform : Platform σ) (block : UnprovenBlock WriterId) (world : World σ) :
    Except Overflow (Except StreamError Unit) × World σ → Prop
  | overflow (overflow : Overflow)
      (refused : world.unproven.push block = .error (.overflow overflow)) :
      Submitted platform block world (.error overflow, world)
  | refused (error : StreamError)
      (refused : world.unproven.push block = .error (.stream error)) :
      Submitted platform block world
        (.ok (.error error),
          { world with platform := platform.release block.writer world.platform })
  | accepted (unproven : UnprovenRun WriterId)
      (pushed : world.unproven.push block = .ok unproven) :
      Submitted platform block world
        (.ok (.ok ()), { world with
          unproven := unproven
          counters := world.counters.increment .requests
          requests := world.requests ++ [block.hash] })

theorem submit_outcome (block : UnprovenBlock WriterId) (world : World σ) :
    Submitted platform block world ((submit block).run platform world) := by
  rcases pushed : world.unproven.push block with (error | overflow) | unproven
  · simp only [submit, Script.run_bind, Script.run_enqueue_error _ _ pushed, Script.run_release,
      Script.run_pure]
    exact .refused error pushed
  · simp only [submit, Script.run_bind, Script.run_enqueue_error _ _ pushed, Script.run_stop]
    exact .overflow overflow pushed
  · simp only [submit, Script.run_bind, Script.run_enqueue_ok _ _ pushed, Script.run_count,
      Script.run_request_signature, Script.run_pure]
    exact .accepted unproven pushed

/-! ### Writing proofs -/

def proofItem (signature : Bytes) (resolved : ResolvedBlock WriterId) : Item :=
  .proof (resolved.proof signature)

/-- One proof: the platform before, how it went, and the platform after the writer was let go. -/
inductive ProofWritten (platform : Platform σ) (signature : Bytes)
    (resolved : ResolvedBlock WriterId) (before : σ) : Except StreamError Unit → σ → Prop
  | notWritten (fault : IoFault) (state : σ)
      (write : platform.writeItem resolved.block.writer
        (proofItem signature resolved).encode before = (.error fault, state)) :
      ProofWritten platform signature resolved before
        (.error (.writer resolved.block.number fault.message))
        (platform.release resolved.block.writer state)
  | notClosed (fault : IoFault) (written closed : σ)
      (write : platform.writeItem resolved.block.writer
        (proofItem signature resolved).encode before = (.ok (), written))
      (close : platform.closeBlock resolved.block.writer written = (.error fault, closed)) :
      ProofWritten platform signature resolved before
        (.error (.writer resolved.block.number fault.message))
        (platform.release resolved.block.writer closed)
  | closed (written closed : σ)
      (write : platform.writeItem resolved.block.writer
        (proofItem signature resolved).encode before = (.ok (), written))
      (close : platform.closeBlock resolved.block.writer written = (.ok (), closed)) :
      ProofWritten platform signature resolved before (.ok ())
        (platform.release resolved.block.writer closed)

theorem write_proof_outcome (resolved : ResolvedBlock WriterId) (signature : Bytes)
    (world : World σ) :
    ∃ answer state, ProofWritten platform signature resolved world.platform answer state ∧
      (writeProof resolved signature).run platform world =
        (.ok answer, { world with platform := state }) := by
  rcases write : platform.writeItem resolved.block.writer (proofItem signature resolved).encode
    world.platform with ⟨fault | _, written⟩
  · refine ⟨_, _, .notWritten fault written write, ?_⟩
    rw [proofItem] at write
    simp only [writeProof, Script.run_bind, Script.run_write_item, write, Script.run_release,
      Script.run_pure]
  rcases close : platform.closeBlock resolved.block.writer written with ⟨fault | _, closed⟩
  · refine ⟨_, _, .notClosed fault written closed write close, ?_⟩
    rw [proofItem] at write
    simp only [writeProof, Script.run_bind, Script.run_write_item, write, Script.run_close_block,
      close, Script.run_release, Script.run_pure]
  · refine ⟨_, _, .closed written closed write close, ?_⟩
    rw [proofItem] at write
    simp only [writeProof, Script.run_bind, Script.run_write_item, write, Script.run_close_block,
      close, Script.run_release, Script.run_pure]

/-- Proofs one after the other; only those that were written and closed are counted. -/
inductive ProofsWritten (platform : Platform σ) (signature : Bytes) :
    List (ResolvedBlock WriterId) → Counters → σ →
      List FinalizedBlock × Option StreamError → Counters → σ → Prop
  | nil (counters : Counters) (state : σ) :
      ProofsWritten platform signature [] counters state ([], none) counters state
  | failed {resolved : ResolvedBlock WriterId} {later : List (ResolvedBlock WriterId)}
      {before after : Counters} {state middle last : σ} {error : StreamError}
      {finalized : List FinalizedBlock} {laterError : Option StreamError}
      (head : ProofWritten platform signature resolved state (.error error) middle)
      (tail : ProofsWritten platform signature later before middle (finalized, laterError)
        after last) :
      ProofsWritten platform signature (resolved :: later) before state (finalized, some error)
        after last
  | written {resolved : ResolvedBlock WriterId} {later : List (ResolvedBlock WriterId)}
      {before after : Counters} {state middle last : σ}
      {finalized : List FinalizedBlock} {error : Option StreamError}
      (head : ProofWritten platform signature resolved state (.ok ()) middle)
      (tail : ProofsWritten platform signature later
        (before.increment (Counter.ofProof resolved.kind)) middle (finalized, error) after last) :
      ProofsWritten platform signature (resolved :: later) before state
        (resolved.finalized :: finalized, error) after last

theorem write_proofs_outcome (signature : Bytes) (blocks : List (ResolvedBlock WriterId))
    (world : World σ) :
    ∃ answer counters state,
      ProofsWritten platform signature blocks world.counters world.platform answer counters state ∧
      (writeProofs signature blocks).run platform world =
        (.ok answer, { world with counters := counters, platform := state }) := by
  induction blocks generalizing world with
  | nil => exact ⟨_, _, _, .nil _ _, rfl⟩
  | cons resolved later inductive_hypothesis =>
      obtain ⟨answer, middle, head, ran⟩ :=
        write_proof_outcome platform resolved signature world
      rcases answer with error | _
      · obtain ⟨⟨finalized, laterError⟩, counters, last, tail, later_ran⟩ :=
          inductive_hypothesis { world with platform := middle }
        refine ⟨_, _, _, .failed head tail, ?_⟩
        simp only [writeProofs, Script.run_bind, ran, later_ran, Script.run_pure]
      · obtain ⟨⟨finalized, error⟩, counters, last, tail, later_ran⟩ :=
          inductive_hypothesis { world with
            platform := middle
            counters := world.counters.increment (Counter.ofProof resolved.kind) }
        refine ⟨_, _, _, .written head tail, ?_⟩
        simp only [writeProofs, Script.run_bind, ran, Script.run_count, later_ran,
          Script.run_pure]

/-! ### Signatures -/

/-- The blocks leave the run whatever becomes of their proofs. -/
inductive Applied (platform : Platform σ) (signed : Digest) (signature : Bytes)
    (world : World σ) :
    Except Overflow (Except StreamError (List FinalizedBlock)) × World σ → Prop
  | ignored (nothing : (world.unproven.resolve signed).1 = []) :
      Applied platform signed signature world
        (.ok (.ok []), { world with
          unproven := (world.unproven.resolve signed).2
          counters := world.counters.increment .ignored })
  | failed (error : StreamError) (finalized : List FinalizedBlock) (counters : Counters)
      (state : σ) (some : (world.unproven.resolve signed).1 ≠ [])
      (proofs : ProofsWritten platform signature (world.unproven.resolve signed).1 world.counters
        world.platform (finalized, .some error) counters state) :
      Applied platform signed signature world
        (.ok (.error error), { world with
          unproven := (world.unproven.resolve signed).2
          counters := counters
          platform := state })
  | proven (finalized : List FinalizedBlock) (counters : Counters) (state : σ)
      (some : (world.unproven.resolve signed).1 ≠ [])
      (proofs : ProofsWritten platform signature (world.unproven.resolve signed).1 world.counters
        world.platform (finalized, none) counters state) :
      Applied platform signed signature world
        (.ok (.ok finalized), { world with
          unproven := (world.unproven.resolve signed).2
          counters := counters
          platform := state })

theorem apply_signature_outcome (signed : Digest) (signature : Bytes) (world : World σ) :
    Applied platform signed signature world
      ((applySignature signed signature).run platform world) := by
  rcases resolved : (world.unproven.resolve signed).1 with _ | ⟨first, later⟩
  · simp only [applySignature, Script.run_bind, Script.run_resolve, resolved, Script.run_count,
      Script.run_pure]
    exact .ignored resolved
  obtain ⟨⟨finalized, error⟩, counters, state, proofs, ran⟩ :=
    write_proofs_outcome platform signature (first :: later)
      { world with unproven := (world.unproven.resolve signed).2 }
  have found : (world.unproven.resolve signed).1 ≠ [] := by simp [resolved]
  rw [← resolved] at proofs
  rcases error with _ | error
  · simp only [applySignature, Script.run_bind, Script.run_resolve, resolved, ran,
      Script.run_pure]
    exact .proven finalized counters state found proofs
  · simp only [applySignature, Script.run_bind, Script.run_resolve, resolved, ran,
      Script.run_pure]
    exact .failed error finalized counters state found proofs

end Ledger
end ProvenBlocks
