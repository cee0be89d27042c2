import ProvenBlocks.Proofs.Resolution
import ProvenBlocks.Proofs.Writers

/-!
Which signature proves which block. The ledger is called in any order, with closed blocks of any
number and with signatures over any hash. A block is proven by the first signature that reaches it,
which is one over its own hash or over that of a block accepted after it, and by no other.
-/

namespace ProvenBlocks

/-! ### Histories of the ledger -/

inductive LedgerCall where
  | submit (block : UnprovenBlock WriterId)
  | sign (hash : Digest) (signature : Bytes)

/-- A call on the ledger, its answer, and the calls that it made on the platform. -/
inductive LedgerEvent where
  | submitted (block : UnprovenBlock WriterId) (answer : Except Overflow (Except StreamError Unit))
      (calls : List Call)
  | signed (hash : Digest) (signature : Bytes)
      (answer : Except Overflow (Except StreamError (List FinalizedBlock))) (calls : List Call)

def LedgerCall.run {σ : Type} (platform : Platform σ) (world : World σ) :
    LedgerCall → LedgerEvent × World σ
  | .submit block =>
      let (answer, after) := (Ledger.submit block).run platform.journaled world.withJournal
      (.submitted block answer after.platform.calls, after.forget)
  | .sign hash signature =>
      let (answer, after) :=
        (Ledger.applySignature hash signature).run platform.journaled world.withJournal
      (.signed hash signature answer after.platform.calls, after.forget)

structure LedgerHistory (σ : Type) where
  world : World σ
  events : List LedgerEvent

namespace LedgerHistory

variable {σ : Type}

/-- An empty ledger. -/
def fresh (view : View) (platform : σ) : LedgerHistory σ :=
  ⟨⟨view, .empty, .zero, [], platform⟩, []⟩

def call (platform : Platform σ) (history : LedgerHistory σ) (call : LedgerCall) :
    LedgerHistory σ :=
  let (event, after) := call.run platform history.world
  ⟨after, history.events ++ [event]⟩

def run (platform : Platform σ) (history : LedgerHistory σ) (calls : List LedgerCall) :
    LedgerHistory σ :=
  calls.foldl (LedgerHistory.call platform) history

end LedgerHistory

/-! ### Attribution -/

def LedgerEvent.accepted? : LedgerEvent → Option (UnprovenBlock WriterId)
  | .submitted block (.ok (.ok ())) _ => some block
  | _ => none

/-- The accepted blocks in the order of their submission. -/
def accepted (events : List LedgerEvent) : List (UnprovenBlock WriterId) :=
  events.filterMap LedgerEvent.accepted?

/-- The hash is that of the block at the index, or of a later one. -/
def Reaches (blocks : List (UnprovenBlock WriterId)) (hash : Digest) (index : Nat) : Prop :=
  ∃ last block, index ≤ last ∧ blocks[last]? = some block ∧ block.hash = hash

/-- Some signature has reached the block at the index. -/
def Reached (events : List LedgerEvent) (index : Nat) : Prop :=
  ∃ before hash signature answer calls after,
    events = before ++ .signed hash signature answer calls :: after ∧
      Reaches (accepted before) hash index

/-- What a signature over the hash makes of the block at the index. -/
structure Proves (blocks : List (UnprovenBlock WriterId)) (hash : Digest) (index : Nat)
    (resolved : ResolvedBlock WriterId) : Prop where
  block : blocks[index]? = some resolved.block
  signed : ∃ last block, index ≤ last ∧ blocks[last]? = some block ∧ block.hash = hash ∧
    resolved.siblings = ((blocks.take (last + 1)).drop (index + 1)).flatMap UnprovenBlock.steps ∧
    (resolved.kind = .direct ↔ last = index)

/-- The calls that write one proof. -/
def proofCalls (signature : Bytes) (resolved : ResolvedBlock WriterId) : List Call :=
  [.writeItem resolved.block.writer (Ledger.proofItem signature resolved).encode (.ok ()),
    .closeBlock resolved.block.writer (.ok ()), .release resolved.block.writer]

section

variable {events more : List LedgerEvent}

@[simp] theorem accepted_append :
    accepted (events ++ more) = accepted events ++ accepted more :=
  List.filterMap_append

theorem reached_append_one {event : LedgerEvent} (index : Nat) :
    Reached (events ++ [event]) index ↔ Reached events index ∨
      ∃ hash signature answer calls, event = .signed hash signature answer calls ∧
        Reaches (accepted events) hash index := by
  constructor
  · rintro ⟨before, hash, signature, answer, calls, after, split, reaches⟩
    rcases split_last split with ⟨rfl, rfl, _⟩ | ⟨earlier, earlier_split, _⟩
    · exact .inr ⟨hash, signature, answer, calls, rfl, reaches⟩
    · exact .inl ⟨before, hash, signature, answer, calls, earlier, earlier_split, reaches⟩
  · rintro (⟨before, hash, signature, answer, calls, after, rfl, reaches⟩ |
      ⟨hash, signature, answer, calls, rfl, reaches⟩)
    · refine ⟨before, hash, signature, answer, calls, after ++ [event], ?_, reaches⟩
      rw [List.append_assoc, List.cons_append]
    · exact ⟨events, hash, signature, answer, calls, [], rfl, reaches⟩

theorem reached_submitted {block : UnprovenBlock WriterId}
    {answer : Except Overflow (Except StreamError Unit)} {calls : List Call} (index : Nat) :
    Reached (events ++ [.submitted block answer calls]) index ↔ Reached events index := by
  rw [reached_append_one]
  constructor
  · rintro (reached | ⟨hash, signature, reply, made, same, _⟩)
    · exact reached
    · cases same
  · exact .inl

theorem reached_signed {hash : Digest} {signature : Bytes}
    {answer : Except Overflow (Except StreamError (List FinalizedBlock))} {calls : List Call}
    (index : Nat) :
    Reached (events ++ [.signed hash signature answer calls]) index ↔
      Reached events index ∨ Reaches (accepted events) hash index := by
  rw [reached_append_one]
  constructor
  · rintro (reached | ⟨other, signed, reply, made, same, reaches⟩)
    · exact .inl reached
    · cases same
      exact .inr reaches
  · rintro (reached | reaches)
    · exact .inl reached
    · exact .inr ⟨hash, signature, answer, calls, rfl, reaches⟩

end

/-! ### What the drained blocks make of their signature -/

section

variable {blocks : List (UnprovenBlock WriterId)} {hash : Digest}

/-- Steps are missing only where there are no blocks. -/
theorem flat_map_steps_eq_nil {later : List (UnprovenBlock WriterId)}
    (stepped : ∀ block ∈ later, block.steps ≠ []) :
    later.flatMap UnprovenBlock.steps = [] ↔ later = [] := by
  constructor
  · intro nothing
    cases later with
    | nil => rfl
    | cons block rest =>
        have first := List.flatMap_eq_nil_iff.mp nothing block (by simp)
        exact absurd first (stepped block (by simp))
  · rintro rfl
    rfl

/-- The blocks between what was drained before and the signed one, each with its siblings. -/
theorem proves_of_split {front : List (UnprovenBlock WriterId)}
    (stepped : ∀ block ∈ front, block.steps ≠ [])
    (signed : ∀ last, front.getLast? = some last → last.hash = hash)
    (before rest : List (UnprovenBlock WriterId)) :
    List.Forall₂ (Proves (before ++ front ++ rest) hash) (List.range' before.length front.length)
      (UnprovenRun.pairWithSiblings front).1 := by
  induction front generalizing before with
  | nil => exact .nil
  | cons block later inductive_hypothesis =>
      rw [UnprovenRun.pair_with_siblings_cons, List.length_cons, List.range'_succ]
      have shifted : before ++ block :: later ++ rest = (before ++ [block]) ++ later ++ rest := by
        simp
      constructor
      · obtain ⟨last, newest⟩ : ∃ last, (block :: later).getLast? = some last :=
          ⟨_, List.getLast?_eq_getLast_of_ne_nil (List.cons_ne_nil block later)⟩
        have place : before.length + later.length = (before ++ block :: later).length - 1 := by
          simp
        refine ⟨by simp, before.length + later.length, last, Nat.le_add_right .., ?_,
          signed last newest, ?_, ?_⟩
        · rw [place, List.getElem?_append_left (by simp), ← List.getLast?_eq_getElem?,
            List.getLast?_append, newest]
          rfl
        · have taken : (before ++ block :: later ++ rest).take (before.length + later.length + 1) =
              (before ++ [block]) ++ later := by
            rw [shifted, List.take_left' (by simp; omega)]
          rw [taken, List.drop_left' (by simp)]
        · rw [kind_direct]
          show later.flatMap UnprovenBlock.steps = [] ↔ _
          rw [flat_map_steps_eq_nil fun other member => stepped other (by simp [member]),
            ← List.length_eq_zero_iff]
          omega
      · rw [shifted, show before.length + 1 = (before ++ [block]).length by simp]
        apply inductive_hypothesis
        · exact fun other member => stepped other (by simp [member])
        · intro last newest
          apply signed last
          rw [List.getLast?_cons, newest]
          rfl

end

/-! ### Single calls -/

/-- Where no call fails, every proof is finalized. -/
theorem noted_without_failure {signature : Bytes} {blocks : List (ResolvedBlock WriterId)}
    {written : List FinalizedBlock × Option StreamError} {calls : List Call}
    (noted : ProofsNoted signature blocks written calls)
    (faultless : ∀ call ∈ calls, call.isFailure = false) :
    written = (blocks.map ResolvedBlock.finalized, none) ∧
      calls = blocks.flatMap (proofCalls signature) := by
  induction noted with
  | nil => exact ⟨rfl, rfl⟩
  | failed head tail inductive_hypothesis =>
      cases head with
      | notWritten fault =>
          cases faultless _ (List.mem_append_left _ (List.mem_cons_self ..))
      | notClosed fault =>
          cases faultless _
            (List.mem_append_left _ (List.mem_cons_of_mem _ (List.mem_cons_self ..)))
  | written head tail inductive_hypothesis =>
      obtain ⟨same, rest⟩ := inductive_hypothesis
        fun call member => faultless call (List.mem_append_right _ member)
      cases same
      cases head
      rw [rest]
      exact ⟨rfl, rfl⟩

section

variable {σ : Type} {platform : Platform σ} {world : World σ}

/-- A block is taken over, or refused for its number, or its number cannot be judged. -/
inductive Submission (platform : Platform σ) (world : World σ) (block : UnprovenBlock WriterId) :
    LedgerEvent × World σ → Prop
  | accepted (consecutive : ∀ newest, world.unproven.blocks.getLast? = some newest →
        block.number.toNat = newest.number.toNat + 1) :
      Submission platform world block (.submitted block (.ok (.ok ())) [],
        { world with
          unproven := ⟨world.unproven.blocks ++ [block]⟩
          counters := world.counters.increment .requests
          requests := world.requests ++ [block.hash] })
  | refused (error : StreamError) (newest : UnprovenBlock WriterId)
      (last : world.unproven.blocks.getLast? = some newest)
      (apart : block.number.toNat ≠ newest.number.toNat + 1) :
      Submission platform world block
        (.submitted block (.ok (.error error)) [.release block.writer],
        { world with platform := platform.release block.writer world.platform })
  | overflow (overflow : Overflow) (newest : UnprovenBlock WriterId)
      (last : world.unproven.blocks.getLast? = some newest)
      (greatest : newest.number.toNat + 1 = 2 ^ 64) :
      Submission platform world block (.submitted block (.error overflow) [], world)

theorem submission (platform : Platform σ) (world : World σ) (block : UnprovenBlock WriterId) :
    Submission platform world block ((LedgerCall.submit block).run platform world) := by
  simp only [LedgerCall.run]
  have outcome := Ledger.submit_outcome platform.journaled block world.withJournal
  have pushed := UnprovenRun.push_outcome world.unproven block
  generalize (Ledger.submit block).run platform.journaled world.withJournal = result at outcome ⊢
  cases outcome with
  | overflow overflow refused =>
      rw [show world.unproven.push block = _ from refused] at pushed
      cases pushed with
      | overflow newest last greatest => exact .overflow .addition newest last greatest
  | refused error refused =>
      rw [show world.unproven.push block = _ from refused] at pushed
      cases pushed with
      | refused newest last apart => exact .refused _ newest last apart
  | accepted unproven accepted =>
      rw [show world.unproven.push block = _ from accepted] at pushed
      cases pushed with
      | accepted consecutive => exact .accepted consecutive

/-- A signature over no pending block is counted and changes nothing else. -/
theorem sign_unknown (platform : Platform σ) {world : World σ} {hash : Digest} (signature : Bytes)
    (absent : ∀ block ∈ world.unproven.blocks, block.hash ≠ hash) :
    (LedgerCall.sign hash signature).run platform world =
      (.signed hash signature (.ok (.ok [])) [],
        { world with counters := world.counters.increment .ignored }) := by
  have resolved : world.withJournal.unproven.resolve hash = ([], world.unproven) :=
    UnprovenRun.resolve_unknown absent
  simp only [LedgerCall.run, Ledger.applySignature, Script.run_bind, Script.run_resolve, resolved,
    Script.run_count, Script.run_pure]
  rfl

/-- The calls of a signature whose proofs are all written, and what it answers then. -/
theorem signing (platform : Platform σ) (world : World σ) (hash : Digest) (signature : Bytes) :
    ∃ answer calls after,
      (LedgerCall.sign hash signature).run platform world =
        (.signed hash signature answer calls, after) ∧
      after.unproven = (world.unproven.resolve hash).2 ∧
      ((∀ call ∈ calls, call.isFailure = false) →
        answer = .ok (.ok ((world.unproven.resolve hash).1.map ResolvedBlock.finalized)) ∧
          calls = (world.unproven.resolve hash).1.flatMap (proofCalls signature)) := by
  simp only [LedgerCall.run]
  have applied := Ledger.apply_signature_outcome platform.journaled hash signature
    world.withJournal
  generalize (Ledger.applySignature hash signature).run platform.journaled world.withJournal =
    result at applied ⊢
  obtain ⟨reply, after⟩ := result
  obtain ⟨written, calls, noted, answer, extended, _, unproven⟩ := journaled_applied applied
  have made : after.platform.calls = calls := extended.calls
  refine ⟨reply, calls, after.forget, by rw [made], unproven, fun faultless => ?_⟩
  obtain ⟨finalized, called⟩ := noted_without_failure noted faultless
  rw [answer, finalized]
  exact ⟨rfl, called⟩

end

/-! ### Every history -/

section

variable {blocks : List (UnprovenBlock WriterId)} {hash : Digest} {count : Nat}

/-- Distinct hashes tell the places of blocks apart. -/
theorem same_place (distinct : (blocks.map UnprovenBlock.hash).Nodup) {first second : Nat}
    {one other : UnprovenBlock WriterId} (here : blocks[first]? = some one)
    (there : blocks[second]? = some other) (same : one.hash = other.hash) : first = second := by
  obtain ⟨bounded, _⟩ := List.getElem?_eq_some_iff.mp here
  have inside : first < (blocks.map UnprovenBlock.hash).length := by simpa using bounded
  apply (List.getElem?_inj inside distinct).mp
  rw [List.getElem?_map, List.getElem?_map, here, there, Option.map_some, Option.map_some, same]

/-- A hash of no pending block reaches only what was drained. -/
theorem reaches_absent (absent : ∀ block ∈ blocks.drop count, block.hash ≠ hash) {index : Nat}
    (reaches : Reaches blocks hash index) : index < count := by
  obtain ⟨last, block, bounded, found, covers⟩ := reaches
  by_cases drained : last < count
  · exact Nat.lt_of_le_of_lt bounded drained
  · have pending : (blocks.drop count)[last - count]? = some block := by
      rw [List.getElem?_drop, Nat.add_sub_cancel' (Nat.le_of_not_lt drained)]
      exact found
    exact absurd covers (absent block (List.mem_of_getElem? pending))

theorem reaches_known (distinct : (blocks.map UnprovenBlock.hash).Nodup)
    {before after : List (UnprovenBlock WriterId)} {block : UnprovenBlock WriterId}
    (split : blocks.drop count = before ++ block :: after) (covers : block.hash = hash)
    (index : Nat) : Reaches blocks hash index ↔ index ≤ count + before.length := by
  have place : blocks[count + before.length]? = some block := by
    rw [← List.getElem?_drop, split, List.getElem?_append_right (Nat.le_refl _), Nat.sub_self]
    rfl
  constructor
  · rintro ⟨last, other, bounded, found, same⟩
    rw [same_place distinct found place (same.trans covers.symm)] at bounded
    exact bounded
  · exact fun bounded => ⟨_, block, bounded, place, covers⟩

end

section

variable {σ : Type} {platform : Platform σ} {history : LedgerHistory σ} {count : Nat}

/-- The first blocks are drained, as many as signatures have reached; the others are pending. -/
structure Drained (history : LedgerHistory σ) (count : Nat) : Prop where
  bounded : count ≤ (accepted history.events).length
  pending : history.world.unproven.blocks = (accepted history.events).drop count
  reached : ∀ index, Reached history.events index ↔ index < count

theorem drained_of_submit (drained : Drained history count) (block : UnprovenBlock WriterId) :
    Drained (history.call platform (.submit block)) count := by
  have outcome := submission platform history.world block
  simp only [LedgerHistory.call]
  generalize (LedgerCall.submit block).run platform history.world = result at outcome ⊢
  cases outcome with
  | accepted consecutive =>
      have appended : accepted (history.events ++ [.submitted block (.ok (.ok ())) []]) =
          accepted history.events ++ [block] := accepted_append
      constructor
      · rw [appended, List.length_append]
        exact Nat.le_add_right_of_le drained.bounded
      · rw [appended, List.drop_append_of_le_length drained.bounded, ← drained.pending]
      · intro index
        rw [reached_submitted]
        exact drained.reached index
  | refused error newest last apart =>
      have appended : accepted
          (history.events ++ [.submitted block (.ok (.error error)) [.release block.writer]]) =
            accepted history.events := accepted_append.trans (List.append_nil _)
      constructor
      · rw [appended]
        exact drained.bounded
      · rw [appended]
        exact drained.pending
      · intro index
        rw [reached_submitted]
        exact drained.reached index
  | overflow overflow newest last greatest =>
      have appended : accepted (history.events ++ [.submitted block (.error overflow) []]) =
          accepted history.events := accepted_append.trans (List.append_nil _)
      constructor
      · rw [appended]
        exact drained.bounded
      · rw [appended]
        exact drained.pending
      · intro index
        rw [reached_submitted]
        exact drained.reached index

theorem drained_of_sign (drained : Drained history count)
    (distinct : ((accepted history.events).map UnprovenBlock.hash).Nodup) (hash : Digest)
    (signature : Bytes) :
    ∃ later, Drained (history.call platform (.sign hash signature)) later := by
  obtain ⟨answer, calls, after, ran, unproven, _⟩ :=
    signing platform history.world hash signature
  have appended : accepted (history.events ++ [.signed hash signature answer calls]) =
      accepted history.events := accepted_append.trans (List.append_nil _)
  have outcome := UnprovenRun.resolve_outcome history.world.unproven hash
  simp only [LedgerHistory.call, ran]
  generalize history.world.unproven.resolve hash = result at outcome unproven
  cases outcome with
  | unknown absent =>
      rw [drained.pending] at absent
      refine ⟨count, ?_, ?_, fun index => ?_⟩
      · rw [appended]
        exact drained.bounded
      · rw [appended, unproven]
        exact drained.pending
      · rw [reached_signed, drained.reached]
        constructor
        · rintro (earlier | now)
          · exact earlier
          · exact reaches_absent absent now
        · exact .inl
  | known before block rest blocks covers first =>
      rw [drained.pending] at blocks
      refine ⟨count + (before.length + 1), ?_, ?_, fun index => ?_⟩
      · have lengths := congrArg List.length blocks
        rw [List.length_drop, List.length_append, List.length_cons] at lengths
        rw [appended]
        have bounded := drained.bounded
        omega
      · rw [appended, unproven, ← List.drop_drop, blocks]
        simp
      · rw [reached_signed, drained.reached, reaches_known distinct blocks covers]
        omega

theorem drained_of_call (drained : Drained history count)
    (distinct : ((accepted history.events).map UnprovenBlock.hash).Nodup) (call : LedgerCall) :
    ∃ later, Drained (history.call platform call) later := by
  cases call with
  | submit block => exact ⟨count, drained_of_submit drained block⟩
  | sign hash signature => exact drained_of_sign drained distinct hash signature

/-- Later calls only add to what was accepted. -/
theorem accepted_run (platform : Platform σ) (history : LedgerHistory σ)
    (calls : List LedgerCall) :
    accepted history.events <+: accepted (history.run platform calls).events := by
  induction calls generalizing history with
  | nil => exact List.prefix_rfl
  | cons call later inductive_hypothesis =>
      have appended : accepted history.events <+: accepted (history.call platform call).events := by
        simp only [LedgerHistory.call, accepted_append]
        exact List.prefix_append _ _
      exact appended.trans (inductive_hypothesis (history.call platform call))

theorem drained_of_run (drained : Drained history count) (calls : List LedgerCall)
    (distinct : ((accepted (history.run platform calls).events).map UnprovenBlock.hash).Nodup) :
    ∃ later, Drained (history.run platform calls) later := by
  induction calls generalizing history count with
  | nil => exact ⟨count, drained⟩
  | cons call later inductive_hypothesis =>
      have earlier := (accepted_run platform history (call :: later)).sublist.map
        UnprovenBlock.hash
      obtain ⟨next, drained_next⟩ := drained_of_call drained (distinct.sublist earlier) call
      exact inductive_hypothesis drained_next distinct

theorem drained_fresh (view : View) (state : σ) : Drained (LedgerHistory.fresh view state) 0 where
  bounded := Nat.zero_le _
  pending := rfl
  reached := by
    intro index
    constructor
    · rintro ⟨before, hash, signature, answer, calls, after, split, _⟩
      cases before <;> cases split
    · intro impossible
      cases impossible

/-- Pending numbers follow each other. -/
def Gapless (blocks : List (UnprovenBlock WriterId)) : Prop :=
  blocks.IsChain fun earlier later => later.number.toNat = earlier.number.toNat + 1

theorem gapless_of_call (gapless : Gapless history.world.unproven.blocks) (call : LedgerCall) :
    Gapless (history.call platform call).world.unproven.blocks := by
  cases call with
  | submit block =>
      have outcome := submission platform history.world block
      simp only [LedgerHistory.call]
      generalize (LedgerCall.submit block).run platform history.world = result at outcome ⊢
      cases outcome with
      | accepted consecutive =>
          apply List.isChain_append.mpr
          refine ⟨gapless, List.isChain_singleton _, ?_⟩
          intro newest last appended head
          cases head
          exact consecutive newest last
      | refused error newest last apart => exact gapless
      | overflow overflow newest last greatest => exact gapless
  | sign hash signature =>
      obtain ⟨answer, calls, after, ran, unproven, _⟩ :=
        signing platform history.world hash signature
      simp only [LedgerHistory.call, ran, unproven]
      exact gapless.suffix (UnprovenRun.resolve_suffix history.world.unproven hash)

theorem gapless_of_run (gapless : Gapless history.world.unproven.blocks)
    (calls : List LedgerCall) : Gapless (history.run platform calls).world.unproven.blocks := by
  induction calls generalizing history with
  | nil => exact gapless
  | cons call later inductive_hypothesis =>
      exact inductive_hypothesis (gapless_of_call gapless call)

/-- What the next signature proves: just the blocks that it reaches first, oldest first. -/
structure Attribution (history : LedgerHistory σ) (hash : Digest) (signature : Bytes)
    (answer : Except Overflow (Except StreamError (List FinalizedBlock))) (calls : List Call)
    (indices : List Nat) (resolved : List (ResolvedBlock WriterId)) : Prop where
  ascending : indices.Pairwise (· < ·)
  first : ∀ index, index ∈ indices ↔
    Reaches (accepted history.events) hash index ∧ ¬ Reached history.events index
  proves : List.Forall₂ (Proves (accepted history.events) hash) indices resolved
  answer : answer = .ok (.ok (resolved.map ResolvedBlock.finalized))
  calls : calls = resolved.flatMap (proofCalls signature)

/-- The pending blocks up to the signed one, each with its siblings. -/
theorem proves_of_pending (drained : Drained history count)
    (stepped : ∀ block ∈ accepted history.events, block.steps ≠ []) {hash : Digest}
    {before rest : List (UnprovenBlock WriterId)} {block : UnprovenBlock WriterId}
    (blocks : (accepted history.events).drop count = before ++ block :: rest)
    (covers : block.hash = hash) :
    List.Forall₂ (Proves (accepted history.events) hash)
      (List.range' count (before ++ [block]).length)
      (UnprovenRun.pairWithSiblings (before ++ [block])).1 := by
  have split : accepted history.events =
      (accepted history.events).take count ++ (before ++ [block]) ++ rest := by
    rw [List.append_assoc, List.append_assoc, List.singleton_append, ← blocks,
      List.take_append_drop]
  have length : ((accepted history.events).take count).length = count :=
    List.length_take_of_le drained.bounded
  have front_stepped : ∀ other ∈ before ++ [block], other.steps ≠ [] := by
    intro other member
    apply stepped
    rw [split]
    exact List.mem_append_left _ (List.mem_append_right _ member)
  have front_covers : ∀ last, (before ++ [block]).getLast? = some last → last.hash = hash := by
    intro last newest
    rw [List.getLast?_concat, Option.some.injEq] at newest
    rw [← newest]
    exact covers
  have proves := proves_of_split front_stepped front_covers
    ((accepted history.events).take count) rest
  rw [← split, length] at proves
  exact proves

theorem attribution (drained : Drained history count)
    (distinct : ((accepted history.events).map UnprovenBlock.hash).Nodup)
    (stepped : ∀ block ∈ accepted history.events, block.steps ≠ []) (hash : Digest)
    (signature : Bytes) :
    ∃ answer calls after,
      (LedgerCall.sign hash signature).run platform history.world =
        (.signed hash signature answer calls, after) ∧
      ((∀ call ∈ calls, call.isFailure = false) →
        ∃ indices resolved, Attribution history hash signature answer calls indices resolved) := by
  obtain ⟨answer, calls, after, ran, _, faultless⟩ :=
    signing platform history.world hash signature
  refine ⟨answer, calls, after, ran, fun written => ?_⟩
  obtain ⟨answered, called⟩ := faultless written
  have outcome := UnprovenRun.resolve_outcome history.world.unproven hash
  generalize history.world.unproven.resolve hash = result at outcome answered called
  cases outcome with
  | unknown absent =>
      rw [drained.pending] at absent
      refine ⟨[], [], List.Pairwise.nil, fun index => ?_, .nil, answered, called⟩
      rw [drained.reached]
      constructor
      · intro impossible
        cases impossible
      · rintro ⟨reaches, fresh⟩
        exact absurd (reaches_absent absent reaches) fresh
  | known before block rest blocks covers first =>
      rw [drained.pending] at blocks
      have proves := proves_of_pending drained stepped blocks covers
      refine ⟨_, _, List.pairwise_lt_range' .., fun index => ?_, proves, answered, called⟩
      rw [drained.reached, reaches_known distinct blocks covers, List.mem_range'_1,
        List.length_append, List.length_singleton]
      omega

/-- What holds after any history of the ledger. -/
structure LedgerHistory.Attributes (platform : Platform σ) (history : LedgerHistory σ) :
    Prop where
  suffix : history.world.unproven.blocks <:+ accepted history.events
  gapless : Gapless history.world.unproven.blocks
  submission : ∀ block, Submission platform history.world block
    ((LedgerCall.submit block).run platform history.world)
  signed : ∀ hash signature, ∃ answer calls after,
    (LedgerCall.sign hash signature).run platform history.world =
      (.signed hash signature answer calls, after) ∧
    ((∀ call ∈ calls, call.isFailure = false) →
      ∃ indices resolved, Attribution history hash signature answer calls indices resolved)
  ignored : ∀ hash signature, (∀ block ∈ history.world.unproven.blocks, block.hash ≠ hash) →
    (LedgerCall.sign hash signature).run platform history.world =
      (.signed hash signature (.ok (.ok [])) [],
        { history.world with counters := history.world.counters.increment .ignored })

theorem every_history_attributes (platform : Platform σ) (view : View) (state : σ)
    (calls : List LedgerCall)
    (distinct : ((accepted ((LedgerHistory.fresh view state).run platform calls).events).map
      UnprovenBlock.hash).Nodup)
    (stepped : ∀ block ∈ accepted ((LedgerHistory.fresh view state).run platform calls).events,
      block.steps ≠ []) :
    ((LedgerHistory.fresh view state).run platform calls).Attributes platform := by
  obtain ⟨count, drained⟩ := drained_of_run (drained_fresh view state) calls distinct
  constructor
  · rw [drained.pending]
    exact List.drop_suffix count _
  · have empty : Gapless (LedgerHistory.fresh view state).world.unproven.blocks :=
      List.isChain_nil
    exact gapless_of_run empty calls
  · exact submission platform _
  · exact attribution drained distinct stepped
  · exact fun hash signature absent => sign_unknown platform signature absent

end

/-! ### A signature that reaches two blocks -/

/-- A log with a writer for each of these blocks, all of them open. -/
def openWriters (numbers : List UInt64) : Depot :=
  numbers.foldl (fun depot number => (depot.create.2.openBlock depot.created number).2)
    (.empty .log (.memory none))

/-- Three blocks in sequence and one that is not, with a signature over no block between them. -/
def threeBlocks : List LedgerCall :=
  [.submit ⟨0, Digest.of [0], .zero, [Digest.of [10]], 0⟩, .sign .zero [1],
    .submit ⟨1, Digest.of [1], Digest.of [0], [Digest.of [11]], 1⟩,
    .submit ⟨1, Digest.of [9], .zero, [.zero], 3⟩,
    .submit ⟨2, Digest.of [2], Digest.of [1], [Digest.of [12]], 2⟩]

def threeBlocksHistory : LedgerHistory Depot :=
  (LedgerHistory.fresh ⟨Chain.unseeded, .empty, none⟩ (openWriters [0, 1, 2, 3])).run
    Depot.platform threeBlocks

/-- What a signature proves if none of its calls fails. -/
def LedgerEvent.proven? : LedgerEvent → Option (List FinalizedBlock)
  | .signed _ _ (.ok (.ok proven)) calls =>
      if ∀ call ∈ calls, call.isFailure = false then some proven else none
  | _ => none

/-- A signature over the second block proves it directly and the first one through it; the third
one stays pending. -/
theorem three_blocks_attribute :
    ((accepted threeBlocksHistory.events).map UnprovenBlock.hash).Nodup ∧
    (∀ block ∈ accepted threeBlocksHistory.events, block.steps ≠ []) ∧
    threeBlocksHistory.Attributes Depot.platform ∧
    ∃ answer calls after indices resolved,
      (LedgerCall.sign (Digest.of [1]) [2]).run Depot.platform threeBlocksHistory.world =
        (.signed (Digest.of [1]) [2] answer calls, after) ∧
      (∀ call ∈ calls, call.isFailure = false) ∧
      Attribution threeBlocksHistory (Digest.of [1]) [2] answer calls indices resolved ∧
      resolved.map ResolvedBlock.finalized = [⟨0, .indirect, 1⟩, ⟨1, .direct, 0⟩] ∧
      after.unproven.numbers = [2] := by
  have distinct : ((accepted threeBlocksHistory.events).map UnprovenBlock.hash).Nodup := by
    decide +kernel
  have stepped : ∀ block ∈ accepted threeBlocksHistory.events, block.steps ≠ [] := by
    decide +kernel
  have attributes : threeBlocksHistory.Attributes Depot.platform :=
    every_history_attributes Depot.platform _ _ threeBlocks distinct stepped
  have evaluated : ((LedgerCall.sign (Digest.of [1]) [2]).run Depot.platform
        threeBlocksHistory.world).1.proven? = some [⟨0, .indirect, 1⟩, ⟨1, .direct, 0⟩] ∧
      ((LedgerCall.sign (Digest.of [1]) [2]).run Depot.platform
        threeBlocksHistory.world).2.unproven.numbers = [2] := by
    decide +kernel
  obtain ⟨answer, calls, after, ran, attributed⟩ := attributes.signed (Digest.of [1]) [2]
  rw [ran] at evaluated
  obtain ⟨proven, pending⟩ := evaluated
  rcases answer with overflow | error | found
  · cases proven
  · cases proven
  obtain ⟨written, told⟩ := Option.ite_none_right_eq_some.mp proven
  obtain ⟨indices, resolved, attribution⟩ := attributed written
  have same := attribution.answer
  rw [Except.ok.injEq, Except.ok.injEq] at same
  exact ⟨distinct, stepped, attributes, _, calls, after, indices, resolved, ran, written,
    attribution, same.symm.trans (Option.some.inj told), pending⟩

end ProvenBlocks
