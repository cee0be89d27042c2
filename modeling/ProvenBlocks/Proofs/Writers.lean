import ProvenBlocks.Proofs.Journal
import ProvenBlocks.Proofs.Ledger

/-!
What becomes of writers. A signature makes calls only on the writers of the blocks it resolves, and
closes none before its proof is written. Writers in use are told apart and open, and nobody has
called on a writer that is yet to be created.
-/

namespace ProvenBlocks

/-! ### The calls of proofs -/

/-- The calls of one proof, by how it went. -/
inductive ProofNoted (signature : Bytes) (resolved : ResolvedBlock WriterId) :
    Except StreamError Unit → List Call → Prop
  | notWritten (fault : IoFault) :
      ProofNoted signature resolved (.error (.writer resolved.block.number fault.message))
        [.writeItem resolved.block.writer (Ledger.proofItem signature resolved).encode
          (.error fault), .release resolved.block.writer]
  | notClosed (fault : IoFault) :
      ProofNoted signature resolved (.error (.writer resolved.block.number fault.message))
        [.writeItem resolved.block.writer (Ledger.proofItem signature resolved).encode (.ok ()),
          .closeBlock resolved.block.writer (.error fault), .release resolved.block.writer]
  | closed :
      ProofNoted signature resolved (.ok ())
        [.writeItem resolved.block.writer (Ledger.proofItem signature resolved).encode (.ok ()),
          .closeBlock resolved.block.writer (.ok ()), .release resolved.block.writer]

/-- The calls of proofs one after the other. -/
inductive ProofsNoted (signature : Bytes) :
    List (ResolvedBlock WriterId) → List FinalizedBlock × Option StreamError → List Call → Prop
  | nil : ProofsNoted signature [] ([], none) []
  | failed {resolved : ResolvedBlock WriterId} {later : List (ResolvedBlock WriterId)}
      {error : StreamError} {finalized : List FinalizedBlock} {laterError : Option StreamError}
      {first rest : List Call} (head : ProofNoted signature resolved (.error error) first)
      (tail : ProofsNoted signature later (finalized, laterError) rest) :
      ProofsNoted signature (resolved :: later) (finalized, some error) (first ++ rest)
  | written {resolved : ResolvedBlock WriterId} {later : List (ResolvedBlock WriterId)}
      {finalized : List FinalizedBlock} {error : Option StreamError} {first rest : List Call}
      (head : ProofNoted signature resolved (.ok ()) first)
      (tail : ProofsNoted signature later (finalized, error) rest) :
      ProofsNoted signature (resolved :: later) (resolved.finalized :: finalized, error)
        (first ++ rest)

section

variable {σ : Type} {platform : Platform σ} {signature : Bytes} {before after : Journal σ}

theorem journaled_proof {resolved : ResolvedBlock WriterId} {answer : Except StreamError Unit}
    (written : Ledger.ProofWritten platform.journaled signature resolved before answer after) :
    ∃ calls, ProofNoted signature resolved answer calls ∧ before.Extends platform calls after := by
  cases written with
  | notWritten fault state write =>
      exact ⟨_, .notWritten fault, (Journal.Extends.of_write_item write).trans (.of_release _ _)⟩
  | notClosed fault state closed write close =>
      exact ⟨_, .notClosed fault, (Journal.Extends.of_write_item write).trans
        ((Journal.Extends.of_close_block close).trans (.of_release _ _))⟩
  | closed state closed write close =>
      exact ⟨_, .closed, (Journal.Extends.of_write_item write).trans
        ((Journal.Extends.of_close_block close).trans (.of_release _ _))⟩

theorem journaled_proofs {blocks : List (ResolvedBlock WriterId)} {counters later : Counters}
    {answer : List FinalizedBlock × Option StreamError}
    (written : Ledger.ProofsWritten platform.journaled signature blocks counters before answer
      later after) :
    ∃ calls, ProofsNoted signature blocks answer calls ∧ before.Extends platform calls after := by
  induction written with
  | nil counters state => exact ⟨[], .nil, .refl state⟩
  | failed head tail inductive_hypothesis =>
      obtain ⟨first, proof, extended⟩ := journaled_proof head
      obtain ⟨rest, proofs, onward⟩ := inductive_hypothesis
      exact ⟨first ++ rest, .failed proof proofs, extended.trans onward⟩
  | written head tail inductive_hypothesis =>
      obtain ⟨first, proof, extended⟩ := journaled_proof head
      obtain ⟨rest, proofs, onward⟩ := inductive_hypothesis
      exact ⟨first ++ rest, .written proof proofs, extended.trans onward⟩

/-- The first error of the proofs, or what they finalized. -/
def proofsAnswer (written : List FinalizedBlock × Option StreamError) :
    Except StreamError (List FinalizedBlock) :=
  match written.2 with
  | some error => .error error
  | none => .ok written.1

theorem journaled_applied {signed : Digest} {world later : World (Journal σ)}
    {answer : Except Overflow (Except StreamError (List FinalizedBlock))}
    (applied : Ledger.Applied platform.journaled signed signature world (answer, later)) :
    ∃ written calls, ProofsNoted signature (world.unproven.resolve signed).1 written calls ∧
      answer = .ok (proofsAnswer written) ∧
      world.platform.Extends platform calls later.platform ∧
      later.view = world.view ∧ later.unproven = (world.unproven.resolve signed).2 := by
  cases applied with
  | ignored nothing =>
      rw [nothing]
      exact ⟨_, [], .nil, rfl, .refl _, rfl, rfl⟩
  | failed error finalized counters state some proofs =>
      obtain ⟨calls, noted, extended⟩ := journaled_proofs proofs
      exact ⟨_, calls, noted, rfl, extended, rfl, rfl⟩
  | proven finalized counters state some proofs =>
      obtain ⟨calls, noted, extended⟩ := journaled_proofs proofs
      exact ⟨_, calls, noted, rfl, extended, rfl, rfl⟩

end

/-- What proofs leave alone: they are only for the resolved writers, nothing is opened or saved, and
whoever is closed has taken in its own proof and no more. -/
structure ProofCalls (signature : Bytes) (blocks : List (ResolvedBlock WriterId))
    (calls : List Call) : Prop where
  others : ∀ writer, (∀ resolved ∈ blocks, resolved.block.writer ≠ writer) →
    Untouched calls writer
  unopened : ∀ writer, openings calls writer = []
  unsaved : saves calls = []
  proof : ∀ writer, IsClosed calls writer → ∃ resolved ∈ blocks,
    resolved.block.writer = writer ∧
      contents calls writer = [(Ledger.proofItem signature resolved).encode]

section

variable {signature : Bytes} {resolved : ResolvedBlock WriterId}

/-- A proof closes nothing before it is written. -/
theorem proof_calls_of_noted {answer : Except StreamError Unit} {calls : List Call}
    (noted : ProofNoted signature resolved answer calls) :
    ProofCalls signature [resolved] calls where
  others := by
    intro writer other call member
    have different := other resolved (by simp)
    cases noted <;> simp only [List.mem_cons, List.not_mem_nil, or_false] at member
    · rcases member with rfl | rfl <;> simpa [Call.writer?] using different
    · rcases member with rfl | rfl | rfl <;> simpa [Call.writer?] using different
    · rcases member with rfl | rfl | rfl <;> simpa [Call.writer?] using different
  unopened := by
    intro writer
    cases noted <;> rfl
  unsaved := by cases noted <;> rfl
  proof := by
    rintro writer ⟨closing, member⟩
    cases noted with
    | notWritten fault => simp at member
    | notClosed fault =>
        have same : writer = resolved.block.writer := by
          simp at member
          exact member.1
        exact ⟨resolved, by simp, same.symm, by simp [same, contents, Call.content?]⟩
    | closed =>
        have same : writer = resolved.block.writer := by
          simp at member
          exact member.1
        exact ⟨resolved, by simp, same.symm, by simp [same, contents, Call.content?]⟩

theorem ProofCalls.cons {later : List (ResolvedBlock WriterId)} {first rest : List Call}
    (distinct : ((resolved :: later).map fun other => other.block.writer).Nodup)
    (head : ProofCalls signature [resolved] first) (tail : ProofCalls signature later rest) :
    ProofCalls signature (resolved :: later) (first ++ rest) where
  others := by
    intro writer other
    refine untouched_append.mpr ⟨head.others writer ?_, tail.others writer ?_⟩
    · exact fun found member => other found (by simp_all)
    · exact fun found member => other found (by simp [member])
  unopened := fun writer => by rw [openings_append, head.unopened, tail.unopened]; rfl
  unsaved := by rw [saves_append, head.unsaved, tail.unsaved]; rfl
  proof := by
    have apart : ∀ other ∈ later, other.block.writer ≠ resolved.block.writer :=
      fun other member same => (List.nodup_cons.mp distinct).1
        (List.mem_map.mpr ⟨other, member, same⟩)
    intro writer closed
    rcases is_closed_append.mp closed with inHead | inTail
    · obtain ⟨found, member, rfl, proof⟩ := head.proof writer inHead
      obtain rfl := List.mem_singleton.mp member
      have elsewhere := contents_untouched (tail.others _ apart)
      exact ⟨found, by simp, rfl, by rw [contents_append, proof, elsewhere, List.append_nil]⟩
    · obtain ⟨found, member, rfl, proof⟩ := tail.proof writer inTail
      have elsewhere : contents first found.block.writer = [] := by
        apply contents_untouched
        apply head.others
        intro other same
        rw [List.mem_singleton.mp same]
        exact (apart found member).symm
      exact ⟨found, by simp [member], rfl, by rw [contents_append, proof, elsewhere]; rfl⟩

theorem proof_calls_of_all_noted {blocks : List (ResolvedBlock WriterId)}
    {written : List FinalizedBlock × Option StreamError} {calls : List Call}
    (distinct : (blocks.map fun resolved => resolved.block.writer).Nodup)
    (noted : ProofsNoted signature blocks written calls) : ProofCalls signature blocks calls := by
  induction noted with
  | nil =>
      refine ⟨fun _ _ => by simp [Untouched], fun _ => rfl, rfl, ?_⟩
      rintro writer ⟨answer, member⟩
      cases member
  | failed head tail inductive_hypothesis =>
      exact .cons distinct (proof_calls_of_noted head)
        (inductive_hypothesis (List.nodup_cons.mp distinct).2)
  | written head tail inductive_hypothesis =>
      exact .cons distinct (proof_calls_of_noted head)
        (inductive_hypothesis (List.nodup_cons.mp distinct).2)

end

/-! ### Writers in use -/

/-- Writers in use are told apart, are counted and have not been closed; writers to come are in no
call. -/
structure Tidy (count : Nat) (calls : List Call) (live : List Nat) : Prop where
  distinct : live.Nodup
  counted : ∀ writer ∈ live, writer < count
  unclosed : ∀ writer ∈ live, ¬ IsClosed calls writer
  untouched : ∀ writer : Nat, count ≤ writer → Untouched calls writer

theorem Tidy.closed_lt {count : Nat} {calls : List Call} {live : List Nat}
    (tidy : Tidy count calls live) {writer : Nat} (closed : IsClosed calls writer) :
    writer < count := by
  rcases Nat.lt_or_ge writer count with below | above
  · exact below
  · exact absurd closed (not_closed_untouched (tidy.untouched writer above))

/-- Further calls that create no writer; some writers may no longer be used. -/
theorem Tidy.extend {count later : Nat} {calls more : List Call} {live kept : List Nat}
    (tidy : Tidy count calls live) (sublist : kept.Sublist live) (grown : count ≤ later)
    (unclosed : ∀ writer ∈ kept, ¬ IsClosed more writer)
    (future : ∀ writer : Nat, later ≤ writer → Untouched more writer) :
    Tidy later (calls ++ more) kept where
  distinct := tidy.distinct.sublist sublist
  counted := fun writer member =>
    Nat.lt_of_lt_of_le (tidy.counted writer (sublist.subset member)) grown
  unclosed := by
    intro writer member closed
    rcases is_closed_append.mp closed with earlier | now
    · exact tidy.unclosed writer (sublist.subset member) earlier
    · exact unclosed writer member now
  untouched := fun writer above => untouched_append.mpr
    ⟨tidy.untouched writer (Nat.le_trans grown above), future writer above⟩

/-- A new writer comes into use. -/
theorem Tidy.extend_new {count later : Nat} {calls more : List Call} {live : List Nat}
    (tidy : Tidy count calls live) {writer : Nat} (new : count ≤ writer)
    (counted : writer < later) (unclosed : ∀ other, ¬ IsClosed more other)
    (future : ∀ other : Nat, later ≤ other → Untouched more other) :
    Tidy later (calls ++ more) (live ++ [writer]) where
  distinct := by
    refine List.nodup_append.mpr ⟨tidy.distinct, List.pairwise_singleton _ _, ?_⟩
    intro used member other same equal
    rw [List.mem_singleton.mp same] at equal
    have below := tidy.counted used member
    omega
  counted := by
    intro used member
    rcases List.mem_append.mp member with earlier | same
    · have below := tidy.counted used earlier
      omega
    · rw [List.mem_singleton.mp same]
      exact counted
  unclosed := by
    intro used member closed
    rcases is_closed_append.mp closed with before | now
    · rcases List.mem_append.mp member with earlier | same
      · exact tidy.unclosed used earlier before
      · rw [List.mem_singleton.mp same] at before
        exact not_closed_untouched (tidy.untouched writer new) before
    · exact unclosed used now
  untouched := fun other above => untouched_append.mpr
    ⟨tidy.untouched other (by omega), future other above⟩

end ProvenBlocks
