import ProvenBlocks.Proofs.Resolution

/-!
Resolving, read by positions. The blocks up to the first one with the signed hash leave the run,
each with the steps of the blocks between it and the signed one, and a loop from the newest block
back collects the same siblings. Over linked blocks every proof verifies, and the proofs of the
blocks with the signed hash are the direct ones, also where blocks without steps repeat a hash.
-/

namespace ProvenBlocks
namespace UnprovenRun

variable {ω : Type}

/-- The block at this position is the oldest with the hash. -/
structure FirstAt (run : UnprovenRun ω) (hash : Digest) (matched : Nat) : Prop where
  found : ∃ block, run.blocks[matched]? = some block ∧ block.hash = hash
  first : ∀ position < matched, ∀ block, run.blocks[position]? = some block → block.hash ≠ hash

/-- The blocks up to a position, each with the steps of those after it. -/
def resolvedUpTo (run : UnprovenRun ω) (matched : Nat) : List (ResolvedBlock ω) :=
  let drained := run.blocks.take (matched + 1)
  drained.mapIdx fun position block =>
    ⟨block, (drained.drop (position + 1)).flatMap UnprovenBlock.steps⟩

/-- One round of the loop: what follows is noted before the block's own steps join it. -/
def collectSiblings (collected : List (List Digest) × List Digest) (block : UnprovenBlock ω) :
    List (List Digest) × List Digest :=
  (collected.1 ++ [collected.2], block.steps ++ collected.2)

/-- The siblings of all blocks, collected from the newest back and then put in their order. -/
def siblingsFromBack (blocks : List (UnprovenBlock ω)) : List (List Digest) :=
  (blocks.reverse.foldl collectSiblings ([], [])).1.reverse

/-- Every hash is folded from the one before it, which is the hash of the block before. -/
structure IsLinked (blocks : List (UnprovenBlock ω)) : Prop where
  folded : ∀ block ∈ blocks, block.hash = block.previousHash.linkAll block.steps
  joined : blocks.IsChain fun earlier later => later.previousHash = earlier.hash

/-! ### The loop from the back -/

/-- After any number of rounds the loop holds what pairing has found, newest first. -/
theorem collect_siblings_eq (blocks : List (UnprovenBlock ω)) :
    blocks.reverse.foldl collectSiblings ([], []) =
      (((pairWithSiblings blocks).1.map ResolvedBlock.siblings).reverse,
        (pairWithSiblings blocks).2) := by
  induction blocks with
  | nil => rfl
  | cons block later inductive_hypothesis =>
      rw [List.reverse_cons, List.foldl_append, inductive_hypothesis, pair_with_siblings_cons]
      simp [collectSiblings, pair_with_siblings_steps]

theorem pair_with_siblings_loop (blocks : List (UnprovenBlock ω)) :
    (pairWithSiblings blocks).1 = blocks.zipWith ResolvedBlock.mk (siblingsFromBack blocks) := by
  have collected : siblingsFromBack blocks =
      (pairWithSiblings blocks).1.map ResolvedBlock.siblings := by
    rw [siblingsFromBack, collect_siblings_eq, List.reverse_reverse]
  calc (pairWithSiblings blocks).1
      = List.zipWith ResolvedBlock.mk ((pairWithSiblings blocks).1.map ResolvedBlock.block)
          ((pairWithSiblings blocks).1.map ResolvedBlock.siblings) := by
        rw [List.zipWith_map, List.zipWith_self, List.map_id']
    _ = List.zipWith ResolvedBlock.mk blocks (siblingsFromBack blocks) := by
        rw [pair_with_siblings_blocks, collected]

/-! ### Positions -/

theorem pair_with_siblings_positions (blocks : List (UnprovenBlock ω)) :
    (pairWithSiblings blocks).1 = blocks.mapIdx fun position block =>
      ⟨block, (blocks.drop (position + 1)).flatMap UnprovenBlock.steps⟩ := by
  induction blocks with
  | nil => rfl
  | cons block later inductive_hypothesis =>
      rw [pair_with_siblings_cons, List.mapIdx_cons, inductive_hypothesis]
      rfl

theorem FirstAt.resolve_eq {run : UnprovenRun ω} {signed : Digest} {matched : Nat}
    (oldest : run.FirstAt signed matched) :
    run.resolve signed = (run.resolvedUpTo matched, ⟨run.blocks.drop (matched + 1)⟩) := by
  obtain ⟨⟨block, member, hash⟩, first⟩ := oldest
  obtain ⟨bounded, same⟩ := List.getElem?_eq_some_iff.mp member
  have index : run.blocks.findIdx? (fun block => block.hash == signed) = some matched := by
    rw [List.findIdx?_eq_some_iff_getElem]
    refine ⟨bounded, by simp [same, hash], fun position earlier => ?_⟩
    simpa using first position earlier _ (List.getElem?_eq_getElem (by omega))
  simp only [resolve, index, pair_with_siblings_positions, resolvedUpTo]

theorem exists_first_at {run : UnprovenRun ω} {signed : Digest}
    (known : ∃ block ∈ run.blocks, block.hash = signed) : ∃ matched, run.FirstAt signed matched := by
  have outcome := resolve_outcome run signed
  generalize run.resolve signed = result at outcome
  cases outcome with
  | unknown absent =>
      obtain ⟨block, member, hash⟩ := known
      exact absurd hash (absent block member)
  | known before block after blocks hash first =>
      refine ⟨before.length, ⟨block, by simp [blocks], hash⟩, fun position earlier other place => ?_⟩
      rw [blocks, List.getElem?_append_left earlier] at place
      exact first other (List.mem_of_getElem? place)

/-! ### Linked blocks -/

theorem IsLinked.leads {blocks : List (UnprovenBlock ω)} (linked : IsLinked blocks) :
    blocks.IsChain LeadsTo := by
  apply linked.joined.imp_of_mem_imp
  intro earlier later _ member joined
  rw [LeadsTo, ← joined]
  exact linked.folded later member

/-- No step is left for a block that has the signed hash and no predecessor with it. -/
theorem siblings_of_signed {before : List (UnprovenBlock ω)} {signed : Digest}
    (first : ∀ earlier ∈ before, earlier.hash ≠ signed) {block : UnprovenBlock ω}
    {resolved : ResolvedBlock ω} (member : resolved ∈ (pairWithSiblings (before ++ [block])).1)
    (own : resolved.block.hash = signed) : resolved.siblings = [] := by
  induction before with
  | nil =>
      cases List.mem_singleton.mp member
      rfl
  | cons earlier later inductive_hypothesis =>
      rw [List.cons_append, pair_with_siblings_cons] at member
      rcases List.mem_cons.mp member with rfl | inside
      · exact absurd own (first earlier (List.mem_cons_self ..))
      · exact inductive_hypothesis
          (fun other known => first other (List.mem_cons_of_mem _ known)) inside

theorem resolve_direct {run : UnprovenRun ω} (chained : run.blocks.IsChain LeadsTo)
    {signed : Digest} {resolved : ResolvedBlock ω} (member : resolved ∈ (run.resolve signed).1) :
    resolved.kind = .direct ↔ resolved.block.hash = signed := by
  rw [kind_direct]
  constructor
  · intro none
    have leads := resolve_leads chained member
    rwa [none] at leads
  · intro own
    have outcome := resolve_outcome run signed
    generalize run.resolve signed = result at outcome member
    cases outcome with
    | unknown absent => cases member
    | known before block after blocks hash first => exact siblings_of_signed first member own

/-- A run without the signed hash resolves nothing. Otherwise the blocks up to the oldest with this
hash leave the run, paired by position as by the loop from the back. Over a linked run each of
their proofs leads to the signed hash, and is direct exactly for a block that has this hash. -/
theorem resolve_by_position (run : UnprovenRun ω) (signed : Digest) :
    ((∀ block ∈ run.blocks, block.hash ≠ signed) → run.resolve signed = ([], run)) ∧
    ((∃ block ∈ run.blocks, block.hash = signed) → ∃ matched, run.FirstAt signed matched ∧
      run.resolve signed = (run.resolvedUpTo matched, ⟨run.blocks.drop (matched + 1)⟩) ∧
      (run.resolve signed).1 = (run.blocks.take (matched + 1)).zipWith ResolvedBlock.mk
        (siblingsFromBack (run.blocks.take (matched + 1)))) ∧
    (IsLinked run.blocks → ∀ resolved ∈ (run.resolve signed).1,
      verifySiblings resolved.block.hash resolved.siblings signed = true ∧
      (∀ signature, (resolved.proof signature).signedHash resolved.block.hash = signed) ∧
      (resolved.kind = .direct ↔ resolved.block.hash = signed)) := by
  refine ⟨resolve_unknown, fun known => ?_, fun linked resolved member => ?_⟩
  · obtain ⟨matched, oldest⟩ := exists_first_at known
    refine ⟨matched, oldest, oldest.resolve_eq, ?_⟩
    rw [← pair_with_siblings_loop, pair_with_siblings_positions, oldest.resolve_eq, resolvedUpTo]
  · have leads := resolve_leads linked.leads member
    exact ⟨by rw [verifySiblings, leads, beq_self_eq_true], fun _ => leads,
      resolve_direct linked.leads member⟩

/-- A block without steps between two others, with the hash of the first. -/
def idleBetween : UnprovenRun Unit :=
  let first := Digest.zero.linkAll [.zero]
  ⟨[⟨4, first, .zero, [.zero], ()⟩, ⟨5, first, first, [], ()⟩,
    ⟨6, first.linkAll [first, .zero], first, [first, .zero], ()⟩]⟩

theorem idle_between_linked : IsLinked idleBetween.blocks := by
  refine ⟨fun block member => ?_, .cons_cons rfl (.cons_cons rfl (.singleton _))⟩
  simp only [idleBetween, List.mem_cons, List.not_mem_nil, or_false] at member
  rcases member with rfl | rfl | rfl <;> rfl

theorem resolve_by_position_idle :
    let signed := (Digest.zero.linkAll [.zero]).linkAll [Digest.zero.linkAll [.zero], .zero]
    (idleBetween.resolve signed).1.map ResolvedBlock.kind = [.indirect, .indirect, .direct] ∧
      ∀ resolved ∈ (idleBetween.resolve signed).1,
        verifySiblings resolved.block.hash resolved.siblings signed = true := by
  intro signed
  obtain ⟨_, _, verified⟩ := resolve_by_position idleBetween signed
  exact ⟨by decide +kernel,
    fun resolved member => (verified idle_between_linked resolved member).1⟩

end UnprovenRun
end ProvenBlocks
