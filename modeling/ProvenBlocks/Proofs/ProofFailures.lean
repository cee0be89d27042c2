import ProvenBlocks.Proofs.Attribution
import ProvenBlocks.Proofs.Siblings

/-!
Signatures over writers that fail. Each call of a writer succeeds or fails on its own. A block loses
its proof to its own writer only: every other one is attempted, the counters grow by the proofs that
were written and closed, the answer names the oldest failure, and no drained block comes back.
-/

namespace ProvenBlocks

/-- What became of one proof. -/
inductive ProofFate where
  | notWritten (fault : IoFault)
  | notClosed (fault : IoFault)
  | closed

structure ProofAttempt where
  resolved : ResolvedBlock WriterId
  fate : ProofFate

namespace ProofAttempt

/-- The block's own proof is written once; only a written block is closed. -/
def calls (signature : Bytes) (attempt : ProofAttempt) : List Call :=
  let writer := attempt.resolved.block.writer
  let proof := (Item.proof (attempt.resolved.proof signature)).encode
  match attempt.fate with
  | .notWritten fault => [.writeItem writer proof (.error fault), .release writer]
  | .notClosed fault =>
      [.writeItem writer proof (.ok ()), .closeBlock writer (.error fault), .release writer]
  | .closed => [.writeItem writer proof (.ok ()), .closeBlock writer (.ok ()), .release writer]

def error? (attempt : ProofAttempt) : Option StreamError :=
  match attempt.fate with
  | .notWritten fault | .notClosed fault =>
      some (.writer attempt.resolved.block.number fault.message)
  | .closed => none

/-- The proof of a block of this kind was written and closed. -/
def succeeds (kind : ProofKind) (attempt : ProofAttempt) : Bool :=
  attempt.error?.isNone && attempt.resolved.kind == kind

end ProofAttempt

def Counters.withProofs (counters : Counters) (direct indirect : Nat) : Counters :=
  { counters with
    direct := counters.direct + .ofNat direct
    indirect := counters.indirect + .ofNat indirect }

/-- The blocks up to the matched one leave the run, whatever their writers answer. -/
structure ProofsAttempted {σ : Type} (world : World σ) (signature : Bytes) (matched : Nat)
    (attempts : List ProofAttempt)
    (answer : Except Overflow (Except StreamError (List FinalizedBlock))) (calls : List Call)
    (after : World σ) : Prop where
  blocks : attempts.map ProofAttempt.resolved = world.unproven.resolvedUpTo matched
  pending : after.unproven.blocks = world.unproven.blocks.drop (matched + 1)
  calls : calls = attempts.flatMap (ProofAttempt.calls signature)
  counters : after.counters = world.counters.withProofs
    (attempts.countP (ProofAttempt.succeeds .direct))
    (attempts.countP (ProofAttempt.succeeds .indirect))
  proven : (∀ attempt ∈ attempts, attempt.error? = none) →
    answer = .ok (.ok (attempts.map fun attempt => attempt.resolved.finalized))
  failed : ∀ error, attempts.findSome? ProofAttempt.error? = some error →
    answer = .ok (.error error)
  others : after.view = world.view ∧ after.requests = world.requests

/-! ### One signature -/

section

variable {signature : Bytes}

theorem attempt_of_noted {resolved : ResolvedBlock WriterId} {answer : Except StreamError Unit}
    {calls : List Call} (noted : ProofNoted signature resolved answer calls) :
    ∃ attempt : ProofAttempt, attempt.resolved = resolved ∧ calls = attempt.calls signature ∧
      answer = attempt.error?.elim (.ok ()) .error := by
  cases noted with
  | notWritten fault => exact ⟨⟨resolved, .notWritten fault⟩, rfl, rfl, rfl⟩
  | notClosed fault => exact ⟨⟨resolved, .notClosed fault⟩, rfl, rfl, rfl⟩
  | closed => exact ⟨⟨resolved, .closed⟩, rfl, rfl, rfl⟩

theorem Counters.increment_with_proofs (counters : Counters) (kind : ProofKind)
    (direct indirect : Nat) :
    (counters.increment (Counter.ofProof kind)).withProofs direct indirect =
      counters.withProofs (direct + if kind = .direct then 1 else 0)
        (indirect + if kind = .indirect then 1 else 0) := by
  cases kind <;>
    simp [withProofs, increment, Counter.ofProof, set, get, UInt64.ofNat_add, UInt64.add_assoc,
      UInt64.add_comm]

/-- Every proof is attempted once, in the order of the blocks. -/
theorem attempts_of_written {σ : Type} {platform : Platform σ}
    {blocks : List (ResolvedBlock WriterId)} {before after : Counters} {state last : Journal σ}
    {answer : List FinalizedBlock × Option StreamError}
    (written : Ledger.ProofsWritten platform.journaled signature blocks before state answer after
      last) :
    ∃ attempts : List ProofAttempt, attempts.map ProofAttempt.resolved = blocks ∧
      state.Extends platform (attempts.flatMap (ProofAttempt.calls signature)) last ∧
      after = before.withProofs (attempts.countP (ProofAttempt.succeeds .direct))
        (attempts.countP (ProofAttempt.succeeds .indirect)) ∧
      answer.2 = attempts.findSome? ProofAttempt.error? ∧
      (answer.2 = none → answer.1 = blocks.map ResolvedBlock.finalized) := by
  induction written with
  | nil counters state =>
      refine ⟨[], rfl, .refl state, ?_, rfl, fun _ => rfl⟩
      simp [Counters.withProofs]
  | failed head tail inductive_hypothesis =>
      obtain ⟨first, noted, extended⟩ := journaled_proof head
      obtain ⟨attempt, rfl, rfl, failed⟩ := attempt_of_noted noted
      obtain ⟨attempts, rfl, onward, counted, _, _⟩ := inductive_hypothesis
      rcases error : attempt.error? with _ | error
      · rw [error] at failed
        cases failed
      · rw [error] at failed
        cases failed
        refine ⟨attempt :: attempts, rfl, extended.trans onward, ?_, ?_, fun none => nomatch none⟩
        · simp [counted, ProofAttempt.succeeds, error]
        · simp [error]
  | @written resolved _ _ _ _ _ _ _ _ head tail inductive_hypothesis =>
      obtain ⟨first, noted, extended⟩ := journaled_proof head
      obtain ⟨attempt, rfl, rfl, closed⟩ := attempt_of_noted noted
      obtain ⟨attempts, rfl, onward, counted, answered, finalized⟩ := inductive_hypothesis
      rcases error : attempt.error? with _ | error
      · refine ⟨attempt :: attempts, rfl, extended.trans onward, ?_, ?_, fun none => ?_⟩
        · rw [counted, Counters.increment_with_proofs]
          simp [List.countP_cons, ProofAttempt.succeeds, error]
        · simpa [error] using answered
        · exact congrArg (attempt.resolved.finalized :: ·) (finalized none)
      · rw [error] at closed
        cases closed

/-- What was written of the resolved blocks is what the attempts say. -/
theorem proofs_attempted_of_written {σ : Type} {platform : Platform σ} {world : World σ}
    {signed : Digest} {matched : Nat} (oldest : world.unproven.FirstAt signed matched)
    {written : List FinalizedBlock × Option StreamError} {counters : Counters}
    {state : Journal σ}
    (proofs : Ledger.ProofsWritten platform.journaled signature (world.unproven.resolve signed).1
      world.counters ⟨[], world.platform⟩ written counters state) :
    ∃ attempts, ProofsAttempted world signature matched attempts (.ok (proofsAnswer written))
      state.calls { world with
        unproven := (world.unproven.resolve signed).2
        counters := counters
        platform := state.state } := by
  obtain ⟨attempts, blocks, extended, counted, answered, finalized⟩ := attempts_of_written proofs
  rw [oldest.resolve_eq] at blocks ⊢
  refine ⟨attempts, blocks, rfl, extended.calls, counted, fun proven => ?_, fun error failed => ?_,
    rfl, rfl⟩
  · have none : written.2 = none := answered.trans (List.findSome?_eq_none_iff.mpr proven)
    rw [proofsAnswer, none, finalized none, oldest.resolve_eq, ← blocks, List.map_map]
    rfl
  · rw [proofsAnswer, answered, failed]

theorem proofs_attempted {σ : Type} (platform : Platform σ) (world : World σ) {signed : Digest}
    {matched : Nat} (oldest : world.unproven.FirstAt signed matched) (signature : Bytes) :
    ∃ attempts answer calls after,
      (LedgerCall.sign signed signature).run platform world =
        (.signed signed signature answer calls, after) ∧
      ProofsAttempted world signature matched attempts answer calls after := by
  have applied := Ledger.apply_signature_outcome platform.journaled signed signature
    world.withJournal
  simp only [LedgerCall.run]
  generalize (Ledger.applySignature signed signature).run platform.journaled world.withJournal =
    result at applied ⊢
  cases applied with
  | ignored nothing =>
      obtain ⟨block, place, hash⟩ := oldest.found
      exact absurd hash
        (UnprovenRun.absent_of_resolve_nil nothing block (List.mem_of_getElem? place))
  | failed error finalized counters state some proofs =>
      obtain ⟨attempts, attempted⟩ := proofs_attempted_of_written oldest proofs
      exact ⟨attempts, _, _, _, rfl, attempted⟩
  | proven finalized counters state some proofs =>
      obtain ⟨attempts, attempted⟩ := proofs_attempted_of_written oldest proofs
      exact ⟨attempts, _, _, _, rfl, attempted⟩

end

/-! ### Later signatures -/

section

variable {σ : Type} {platform : Platform σ} {history : LedgerHistory σ}
  {base : List (UnprovenBlock WriterId)}

/-- Only accepted blocks join the pending ones. -/
theorem pending_of_call (pending : history.world.unproven.blocks <:+ base ++ accepted history.events)
    (call : LedgerCall) :
    (history.call platform call).world.unproven.blocks <:+
      base ++ accepted (history.call platform call).events := by
  cases call with
  | submit block =>
      have outcome := submission platform history.world block
      simp only [LedgerHistory.call, accepted_append, ← List.append_assoc]
      generalize (LedgerCall.submit block).run platform history.world = result at outcome ⊢
      cases outcome with
      | accepted consecutive =>
          obtain ⟨before, split⟩ := pending
          exact ⟨before, by rw [← split, List.append_assoc]; rfl⟩
      | refused error newest last apart =>
          show history.world.unproven.blocks <:+ base ++ accepted history.events ++ []
          rwa [List.append_nil]
      | overflow overflow newest last greatest =>
          show history.world.unproven.blocks <:+ base ++ accepted history.events ++ []
          rwa [List.append_nil]
  | sign hash signature =>
      obtain ⟨answer, calls, after, ran, unproven, _⟩ :=
        signing platform history.world hash signature
      simp only [LedgerHistory.call, ran, unproven, accepted_append, ← List.append_assoc]
      show _ <:+ base ++ accepted history.events ++ []
      rw [List.append_nil]
      exact (UnprovenRun.resolve_suffix _ _).trans pending

theorem pending_of_run (pending : history.world.unproven.blocks <:+ base ++ accepted history.events)
    (calls : List LedgerCall) :
    (history.run platform calls).world.unproven.blocks <:+
      base ++ accepted (history.run platform calls).events := by
  induction calls generalizing history with
  | nil => exact pending
  | cons call later inductive_hypothesis =>
      exact inductive_hypothesis (pending_of_call pending call)

end

/-- A signature over a pending block makes one attempt at the proof of every block up to the oldest
with this hash. No writer's failure changes what becomes of the others, and whatever is called for
afterwards, a signature over a drained hash is ignored, as long as no hash occurs twice. -/
theorem failures_stay_with_their_blocks {σ : Type} (platform : Platform σ) (world : World σ)
    (signed : Digest) (signature : Bytes)
    (known : ∃ block ∈ world.unproven.blocks, block.hash = signed) :
    ∃ matched attempts answer calls after,
      world.unproven.FirstAt signed matched ∧
      (LedgerCall.sign signed signature).run platform world =
        (.signed signed signature answer calls, after) ∧
      ProofsAttempted world signature matched attempts answer calls after ∧
      ∀ later : List LedgerCall,
        let history := LedgerHistory.run platform ⟨after, []⟩ later
        ((world.unproven.blocks ++ accepted history.events).map UnprovenBlock.hash).Nodup →
        ∀ drained ∈ world.unproven.blocks.take (matched + 1), ∀ repeated,
          (LedgerCall.sign drained.hash repeated).run platform history.world =
            (.signed drained.hash repeated (.ok (.ok [])) [],
              { history.world with counters := history.world.counters.increment .ignored }) := by
  obtain ⟨matched, oldest⟩ := UnprovenRun.exists_first_at known
  obtain ⟨attempts, answer, calls, after, ran, attempted⟩ :=
    proofs_attempted platform world oldest signature
  refine ⟨matched, attempts, answer, calls, after, oldest, ran, attempted, ?_⟩
  intro later history distinct drained member repeated
  apply sign_unknown
  intro block pending same
  have left : block ∈ world.unproven.blocks.drop (matched + 1) ++ accepted history.events := by
    apply (pending_of_run ?_ later).subset pending
    rw [attempted.pending]
    exact ⟨[], (List.append_nil _).symm⟩
  rw [← List.take_append_drop (matched + 1) world.unproven.blocks, List.append_assoc,
    List.map_append] at distinct
  exact (List.nodup_append.mp distinct).2.2 _ (List.mem_map_of_mem member) _
    (List.mem_map_of_mem left) same.symm

/-- A platform whose writers answer one after the other from a list. -/
def Platform.scripted : Platform (List (Except IoFault Unit)) where
  create := fun answers => (.ok 0, answers)
  openBlock := fun _ _ answers => (.ok (), answers)
  writeItem := fun _ _ answers => (answers.headD (.ok ()), answers.tail)
  closeBlock := fun _ answers => (answers.headD (.ok ()), answers.tail)
  release := fun _ answers => answers
  save := fun _ answers => (.ok (), answers)

/-- Four blocks whose writers are to fail at the close, not at all, at the write and not at all. -/
def failingWriters : World (List (Except IoFault Unit)) :=
  ⟨⟨Chain.unseeded, .empty, none⟩,
    ⟨[⟨6, Digest.of [6], .zero, [.zero], 0⟩, ⟨7, Digest.of [7], .zero, [.zero], 1⟩,
      ⟨8, Digest.of [8], .zero, [.zero], 2⟩, ⟨9, Digest.of [9], .zero, [.zero], 3⟩]⟩,
    .zero, [], [.ok (), .error (.reported .other "full"), .ok (), .ok (),
      .error (.reported .other "lost"), .ok (), .ok ()]⟩

theorem failures_stay_with_failing_writers :
    (∃ block ∈ failingWriters.unproven.blocks, block.hash = Digest.of [9]) ∧
    ∃ matched attempts answer calls after,
      (LedgerCall.sign (Digest.of [9]) [1]).run Platform.scripted failingWriters =
        (.signed (Digest.of [9]) [1] answer calls, after) ∧
      ProofsAttempted failingWriters [1] matched attempts answer calls after ∧
      after.counters = { Counters.zero with direct := 1, indirect := 1 } ∧
      ∀ drained ∈ failingWriters.unproven.blocks.take (matched + 1), ∀ repeated,
        (LedgerCall.sign drained.hash repeated).run Platform.scripted after =
          (.signed drained.hash repeated (.ok (.ok [])) [],
            { after with counters := after.counters.increment .ignored }) := by
  have known : ∃ block ∈ failingWriters.unproven.blocks, block.hash = Digest.of [9] :=
    ⟨_, .tail _ (.tail _ (.tail _ (.head _))), rfl⟩
  obtain ⟨matched, attempts, answer, calls, after, _, ran, attempted, ignored⟩ :=
    failures_stay_with_their_blocks Platform.scripted failingWriters (Digest.of [9]) [1] known
  have counted : ((LedgerCall.sign (Digest.of [9]) [1]).run Platform.scripted
      failingWriters).2.counters = { Counters.zero with direct := 1, indirect := 1 } := by
    decide +kernel
  have distinct : ((failingWriters.unproven.blocks ++ accepted []).map
      UnprovenBlock.hash).Nodup := by
    decide +kernel
  rw [ran] at counted
  exact ⟨known, matched, attempts, answer, calls, after, ran, attempted, counted,
    ignored [] distinct⟩

end ProvenBlocks
