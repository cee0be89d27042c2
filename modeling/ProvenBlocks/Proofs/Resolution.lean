import Mathlib.Algebra.Group.Nat.Defs
import Mathlib.Data.List.Chain
import ProvenBlocks.UnprovenRun

/-!
What a signature resolves. A run splits at the first block with the signed hash, and the siblings
of a resolved block are the steps of the blocks between it and the signed one. Over blocks that
are chained, every resolved block leads to the signed hash.
-/

namespace ProvenBlocks

/-- What ends with a new entry is split at this entry or at an earlier one. -/
theorem split_last {α : Type} {history before after : List α} {last entry : α}
    (split : history ++ [last] = before ++ entry :: after) :
    (history = before ∧ last = entry ∧ after = []) ∨
      ∃ earlier, history = before ++ entry :: earlier ∧ after = earlier ++ [last] := by
  rcases List.eq_nil_or_concat' after with rfl | ⟨earlier, newest, rfl⟩
  · obtain ⟨same, entries⟩ := List.append_inj' split rfl
    exact .inl ⟨same, List.singleton_inj.mp entries, rfl⟩
  · rw [← List.cons_append, ← List.append_assoc] at split
    obtain ⟨same, entries⟩ := List.append_inj' split rfl
    exact .inr ⟨earlier, same, by rw [List.singleton_inj.mp entries]⟩

theorem kind_direct {ω : Type} (resolved : ResolvedBlock ω) :
    resolved.kind = .direct ↔ resolved.siblings = [] := by
  unfold ResolvedBlock.kind ProofKind.ofSiblings
  split <;> simp_all

namespace UnprovenRun

variable {ω : Type}

theorem pair_with_siblings_steps (blocks : List (UnprovenBlock ω)) :
    (pairWithSiblings blocks).2 = blocks.flatMap UnprovenBlock.steps := by
  induction blocks with
  | nil => rfl
  | cons block later inductive_hypothesis =>
      simp only [pairWithSiblings, inductive_hypothesis, List.flatMap_cons]

theorem pair_with_siblings_cons (block : UnprovenBlock ω) (later : List (UnprovenBlock ω)) :
    (pairWithSiblings (block :: later)).1 =
      ⟨block, later.flatMap UnprovenBlock.steps⟩ :: (pairWithSiblings later).1 := by
  simp only [pairWithSiblings, pair_with_siblings_steps]

theorem pair_with_siblings_blocks (blocks : List (UnprovenBlock ω)) :
    (pairWithSiblings blocks).1.map ResolvedBlock.block = blocks := by
  induction blocks with
  | nil => rfl
  | cons block later inductive_hypothesis =>
      rw [pair_with_siblings_cons, List.map_cons, inductive_hypothesis]

/-! ### Taking over blocks -/

theorem to_nat_succ {number : UInt64} (bounded : number.toNat + 1 < 2 ^ 64) :
    (number + 1).toNat = number.toNat + 1 := by
  have one : (1 : UInt64).toNat = 1 := rfl
  rw [UInt64.toNat_add, one]
  omega

inductive Pushed (run : UnprovenRun ω) (block : UnprovenBlock ω) :
    Except Failure (UnprovenRun ω) → Prop
  | accepted (consecutive : ∀ newest, run.blocks.getLast? = some newest →
        block.number.toNat = newest.number.toNat + 1) :
      Pushed run block (.ok ⟨run.blocks ++ [block]⟩)
  | refused (newest : UnprovenBlock ω) (last : run.blocks.getLast? = some newest)
      (apart : block.number.toNat ≠ newest.number.toNat + 1) :
      Pushed run block (.error (.stream (.nonContiguous (newest.number + 1) block.number)))
  | overflow (newest : UnprovenBlock ω) (last : run.blocks.getLast? = some newest)
      (greatest : newest.number.toNat + 1 = 2 ^ 64) :
      Pushed run block (.error (.overflow .addition))

theorem push_outcome (run : UnprovenRun ω) (block : UnprovenBlock ω) :
    Pushed run block (run.push block) := by
  rcases last : run.blocks.getLast? with _ | newest
  · simp only [push, last]
    exact .accepted fun other found => by rw [last] at found; cases found
  by_cases bounded : newest.number.toNat + 1 < 2 ^ 64
  · simp only [push, last, checked_succ_ok (show newest.number.toNat < 2 ^ 64 - 1 by omega)]
    by_cases follows : block.number = newest.number + 1
    · rw [if_pos follows]
      apply Pushed.accepted
      intro other found
      rw [last, Option.some.injEq] at found
      rw [← found, follows, to_nat_succ bounded]
    · rw [if_neg follows]
      apply Pushed.refused newest last
      intro same
      apply follows
      rw [← UInt64.toNat_inj, same, to_nat_succ bounded]
  · have least := newest.number.toNat_lt
    have greatest : newest.number.toNat = 2 ^ 64 - 1 := by omega
    simp only [push, last, checked_succ_overflow greatest]
    exact .overflow newest last (by omega)

theorem push_ok {run next : UnprovenRun ω} {block : UnprovenBlock ω}
    (pushed : run.push block = .ok next) : next = ⟨run.blocks ++ [block]⟩ := by
  have outcome := run.push_outcome block
  rw [pushed] at outcome
  cases outcome
  rfl

/-- A block that is refused is out of sequence. -/
theorem push_refused {run : UnprovenRun ω} {block : UnprovenBlock ω} {error : StreamError}
    (refused : run.push block = .error (.stream error)) :
    ∃ expected, error = .nonContiguous expected block.number := by
  have outcome := run.push_outcome block
  rw [refused] at outcome
  cases outcome
  exact ⟨_, rfl⟩

/-! ### Splitting at the signed block -/

inductive Resolved (run : UnprovenRun ω) (signed : Digest) :
    List (ResolvedBlock ω) × UnprovenRun ω → Prop
  | unknown (absent : ∀ block ∈ run.blocks, block.hash ≠ signed) :
      Resolved run signed ([], run)
  | known (before : List (UnprovenBlock ω)) (block : UnprovenBlock ω)
      (after : List (UnprovenBlock ω)) (blocks : run.blocks = before ++ block :: after)
      (hash : block.hash = signed) (first : ∀ earlier ∈ before, earlier.hash ≠ signed) :
      Resolved run signed ((pairWithSiblings (before ++ [block])).1, ⟨after⟩)

theorem resolve_outcome (run : UnprovenRun ω) (signed : Digest) :
    Resolved run signed (run.resolve signed) := by
  rcases found : run.blocks.findIdx? (fun block => block.hash == signed) with _ | index
  · simp only [resolve, found]
    exact .unknown (by simpa using List.findIdx?_eq_none_iff.mp found)
  · obtain ⟨bounded, hash, first⟩ := List.findIdx?_eq_some_iff_getElem.mp found
    simp only [resolve, found]
    have split : run.blocks =
        run.blocks.take index ++ run.blocks[index] :: run.blocks.drop (index + 1) := by simp
    rw [List.take_succ_eq_append_getElem bounded]
    apply Resolved.known _ _ _ split (by simpa using hash)
    intro earlier member
    obtain ⟨position, inside, rfl⟩ := List.mem_take_iff_getElem.mp member
    simpa using first position (by omega)

theorem resolve_unknown {run : UnprovenRun ω} {signed : Digest}
    (absent : ∀ block ∈ run.blocks, block.hash ≠ signed) : run.resolve signed = ([], run) := by
  have outcome := resolve_outcome run signed
  generalize run.resolve signed = result at outcome ⊢
  cases outcome with
  | unknown _ => rfl
  | known before block after blocks hash first =>
      exact absurd hash (absent block (by simp [blocks]))

theorem resolved_blocks (run : UnprovenRun ω) (signed : Digest) :
    (run.resolve signed).1.map ResolvedBlock.block ++ (run.resolve signed).2.blocks =
      run.blocks := by
  have outcome := resolve_outcome run signed
  generalize run.resolve signed = result at outcome ⊢
  cases outcome with
  | unknown absent => rfl
  | known before block after blocks hash first =>
      rw [pair_with_siblings_blocks, blocks, List.append_assoc, List.singleton_append]

theorem resolve_suffix (run : UnprovenRun ω) (signed : Digest) :
    (run.resolve signed).2.blocks <:+ run.blocks :=
  ⟨_, resolved_blocks run signed⟩

/-- The last block that a signature resolves is one with the signed hash. -/
theorem resolve_last {run : UnprovenRun ω} {signed : Digest} {last : ResolvedBlock ω}
    (newest : (run.resolve signed).1.getLast? = some last) : last.block.hash = signed := by
  have outcome := resolve_outcome run signed
  generalize run.resolve signed = result at outcome newest
  cases outcome with
  | unknown absent => cases newest
  | known before block after blocks hash first =>
      have mapped := congrArg (Option.map ResolvedBlock.block) newest
      rw [← List.getLast?_map, pair_with_siblings_blocks, List.getLast?_concat] at mapped
      cases mapped
      exact hash

/-- Without a resolved block the signed hash is none of the run. -/
theorem absent_of_resolve_nil {run : UnprovenRun ω} {signed : Digest}
    (nothing : (run.resolve signed).1 = []) : ∀ block ∈ run.blocks, block.hash ≠ signed := by
  have outcome := resolve_outcome run signed
  generalize run.resolve signed = result at outcome nothing
  cases outcome with
  | unknown absent => exact absent
  | known before block after blocks hash first =>
      have mapped := congrArg (List.map ResolvedBlock.block) nothing
      rw [pair_with_siblings_blocks] at mapped
      simp at mapped

/-! ### Chained blocks -/

/-- The steps of a block lead from the hash before it to its own. -/
def LeadsTo (earlier later : UnprovenBlock ω) : Prop :=
  later.hash = earlier.hash.linkAll later.steps

theorem link_all_steps {first : UnprovenBlock ω} {later : List (UnprovenBlock ω)}
    {last : UnprovenBlock ω} (chained : (first :: later).IsChain LeadsTo)
    (newest : (first :: later).getLast? = some last) :
    first.hash.linkAll (later.flatMap UnprovenBlock.steps) = last.hash := by
  induction later generalizing first with
  | nil =>
      cases newest
      rfl
  | cons second later inductive_hypothesis =>
      obtain ⟨leads, chained⟩ := List.isChain_cons_cons.mp chained
      rw [List.flatMap_cons, Digest.link_all_append, ← leads]
      exact inductive_hypothesis chained (by rwa [List.getLast?_cons_cons] at newest)

/-- Every resolved block leads to the hash of the newest one. -/
theorem pair_with_siblings_leads {blocks : List (UnprovenBlock ω)} {last : UnprovenBlock ω}
    (chained : blocks.IsChain LeadsTo) (newest : blocks.getLast? = some last)
    {resolved : ResolvedBlock ω} (member : resolved ∈ (pairWithSiblings blocks).1) :
    resolved.block.hash.linkAll resolved.siblings = last.hash := by
  induction blocks with
  | nil => cases member
  | cons block later inductive_hypothesis =>
      rw [pair_with_siblings_cons] at member
      rcases List.mem_cons.mp member with rfl | inside
      · exact link_all_steps chained newest
      · rcases later with _ | ⟨second, later⟩
        · cases inside
        · exact inductive_hypothesis (List.isChain_cons_cons.mp chained).2
            (by rwa [List.getLast?_cons_cons] at newest) inside

theorem resolve_leads {run : UnprovenRun ω} (chained : run.blocks.IsChain LeadsTo)
    {signed : Digest} {resolved : ResolvedBlock ω} (member : resolved ∈ (run.resolve signed).1) :
    resolved.block.hash.linkAll resolved.siblings = signed := by
  have outcome := resolve_outcome run signed
  generalize run.resolve signed = result at outcome member
  cases outcome with
  | unknown absent => cases member
  | known before block after blocks hash first =>
      rw [← hash]
      have front : (before ++ [block]).IsChain LeadsTo := by
        apply chained.prefix
        exists after
        rw [blocks, List.append_assoc, List.singleton_append]
      exact pair_with_siblings_leads front (by simp) member

end UnprovenRun
end ProvenBlocks
