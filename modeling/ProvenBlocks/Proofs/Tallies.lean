import ProvenBlocks.Proofs.Protocol
import ProvenBlocks.Proofs.Reloading
import ProvenBlocks.Proofs.Schedules

/-!
What the counters of a stream tell. Each is the number of some of the calls or answers so far, and
together they balance: every block that was closed has its proof, waits for it, or has lost it to a
failure.
-/

namespace ProvenBlocks

/-! ### What is counted -/

namespace Call

/-- A writer has taken in an item of the stream, which writes no proofs. -/
def isItem : Call → Bool
  | .writeItem _ content (.ok ()) => !isProofText content
  | _ => false

/-- A proof could not be written, or its block not be closed. -/
def losesProof : Call → Bool
  | .writeItem _ content (.error _) => isProofText content
  | .closeBlock _ (.error _) => true
  | _ => false

end Call

namespace Event

/-- A signature over no unproven block. -/
def isIgnored : Event → Bool
  | .signed _ [] _ => true
  | _ => false

/-- Whether a block is open, or was when the stream halted, by what callers are told. -/
def leavesOpen (isOpen : Bool) : Event → Bool
  | .roundStarted _ (.ok ()) => true
  | .roundEnded _ (.ok (some _)) => false
  | _ => isOpen

end Event

/-- Some block was opened and has not been closed. -/
def isLeftOpen (history : List Event) : Bool := history.foldl Event.leavesOpen false

/-- Counters in numbers: checkpoints saved, items written, proofs lost, blocks that wait for their
proof, signatures ignored, and whether a block was left open. -/
structure Counters.Tell (counters : Counters) (saved items lost waiting ignored : Nat)
    (isOpen : Bool) : Prop where
  closed : counters.closed = .ofNat saved
  requests : counters.requests = .ofNat saved
  opened : counters.opened = .ofNat (saved + isOpen.toNat)
  items : counters.items = .ofNat items
  ignored : counters.ignored = .ofNat ignored
  balance : ∃ direct indirect, counters.direct = .ofNat direct ∧
    counters.indirect = .ofNat indirect ∧ saved = direct + indirect + waiting + lost

namespace Counters.Tell

variable {counters : Counters} {saved items lost waiting ignored : Nat} {isOpen : Bool}

theorem of_nat_succ (count : Nat) : UInt64.ofNat (count + 1) = UInt64.ofNat count + 1 :=
  UInt64.ofNat_add count 1

theorem zero : Counters.zero.Tell 0 0 0 0 0 false :=
  ⟨rfl, rfl, rfl, rfl, rfl, 0, 0, rfl, rfl, rfl⟩

theorem write_item (tell : counters.Tell saved items lost waiting ignored isOpen) :
    (counters.increment .items).Tell saved (items + 1) lost waiting ignored isOpen :=
  { tell with items := by rw [of_nat_succ, ← tell.items]; rfl }

theorem open_block (tell : counters.Tell saved items lost waiting ignored false) :
    (counters.increment .opened).Tell saved items lost waiting ignored true :=
  { tell with
    opened := by
      have before := tell.opened
      simp only [Bool.toNat_false, Nat.add_zero] at before
      simp only [Bool.toNat_true, of_nat_succ, ← before]
      rfl }

/-- The block that was open waits for its proof. -/
theorem close_block (tell : counters.Tell saved items lost waiting ignored true) :
    ((counters.increment .requests).increment .closed).Tell (saved + 1) items lost (waiting + 1)
      ignored false where
  closed := by rw [of_nat_succ, ← tell.closed]; rfl
  requests := by rw [of_nat_succ, ← tell.requests]; rfl
  opened := tell.opened
  items := tell.items
  ignored := tell.ignored
  balance := by
    obtain ⟨direct, indirect, isDirect, isIndirect, balance⟩ := tell.balance
    exact ⟨direct, indirect, isDirect, isIndirect, by omega⟩

theorem ignore (tell : counters.Tell saved items lost waiting ignored isOpen) :
    (counters.increment .ignored).Tell saved items lost waiting (ignored + 1) isOpen :=
  { tell with ignored := by rw [of_nat_succ, ← tell.ignored]; rfl }

/-- A block that waited has its proof. -/
theorem prove (tell : counters.Tell saved items lost (waiting + 1) ignored isOpen)
    (kind : ProofKind) :
    (counters.increment (Counter.ofProof kind)).Tell saved items lost waiting ignored isOpen := by
  obtain ⟨direct, indirect, isDirect, isIndirect, balance⟩ := tell.balance
  cases kind with
  | direct =>
      refine ⟨tell.closed, tell.requests, tell.opened, tell.items, tell.ignored,
        direct + 1, indirect, ?_, isIndirect, by omega⟩
      rw [of_nat_succ, ← isDirect]
      rfl
  | indirect =>
      refine ⟨tell.closed, tell.requests, tell.opened, tell.items, tell.ignored,
        direct, indirect + 1, isDirect, ?_, by omega⟩
      rw [of_nat_succ, ← isIndirect]
      rfl

/-- A block that waited has lost its proof. -/
theorem lose (tell : counters.Tell saved items lost (waiting + 1) ignored isOpen) :
    counters.Tell saved items (lost + 1) waiting ignored isOpen := by
  obtain ⟨direct, indirect, isDirect, isIndirect, balance⟩ := tell.balance
  exact ⟨tell.closed, tell.requests, tell.opened, tell.items, tell.ignored,
    direct, indirect, isDirect, isIndirect, by omega⟩

end Counters.Tell

/-- Blocks without a proof are told from the other counters if these leave no room for a wrap. -/
theorem Counters.unproven_of_balance {counters : Counters} {rest : Nat}
    (balance : counters.closed.toNat = counters.direct.toNat + counters.indirect.toNat + rest) :
    counters.unproven = .ok (.ofNat rest) := by
  have bounded := counters.closed.toNat_lt
  have fits : counters.direct.toNat + counters.indirect.toNat < 2 ^ 64 := by omega
  have proven : (counters.direct + counters.indirect).toNat =
      counters.direct.toNat + counters.indirect.toNat := by
    rw [UInt64.toNat_add, Nat.mod_eq_of_lt fits]
  have enough : (counters.direct + counters.indirect).toNat ≤ counters.closed.toNat := by omega
  have difference : counters.closed - (counters.direct + counters.indirect) = .ofNat rest := by
    apply UInt64.toNat_inj.mp
    rw [UInt64.toNat_sub_of_le _ _ (UInt64.le_iff_toNat_le.mpr enough), UInt64.toNat_ofNat']
    omega
  simp only [unproven, checkedAdd, if_pos fits, bind, Except.bind, if_pos enough, difference]

/-! ### Calls and events -/

/-- What calls add to the numbers. -/
structure Adds (calls : List Call) (saved items lost : Nat) : Prop where
  saved : (saves calls).length = saved
  items : calls.countP Call.isItem = items
  lost : calls.countP Call.losesProof = lost

theorem Adds.append {calls more : List Call}
    {saved items lost savedLater itemsLater lostLater : Nat}
    (first : Adds calls saved items lost) (second : Adds more savedLater itemsLater lostLater) :
    Adds (calls ++ more) (saved + savedLater) (items + itemsLater) (lost + lostLater) :=
  ⟨by rw [saves_append, List.length_append, first.saved, second.saved],
    by rw [List.countP_append, first.items, second.items],
    by rw [List.countP_append, first.lost, second.lost]⟩

/-- A call that neither writes nor saves adds nothing, and neither does one that failed to. -/
def Call.isIdle : Call → Bool
  | .create _ | .openBlock _ _ _ | .release _ | .save _ (.error _) => true
  | .writeItem _ content (.error _) => !isProofText content
  | .writeItem _ _ (.ok ()) | .closeBlock _ _ | .save _ (.ok ()) => false

theorem adds_nothing {call : Call} (idle : call.isIdle = true) : Adds [call] 0 0 0 := by
  unfold Call.isIdle at idle
  split at idle
  · exact ⟨rfl, rfl, rfl⟩
  · exact ⟨rfl, rfl, rfl⟩
  · exact ⟨rfl, rfl, rfl⟩
  · exact ⟨rfl, rfl, rfl⟩
  · rename_i writer content fault
    have text : isProofText content = false := by simpa using idle
    exact ⟨rfl, rfl, by simp [Call.losesProof, text]⟩
  · cases idle
  · cases idle
  · cases idle

theorem adds_item {writer : WriterId} {content : Bytes} (text : isProofText content = false) :
    Adds [.writeItem writer content (.ok ())] 0 1 0 :=
  ⟨rfl, by simp [Call.isItem, text], rfl⟩

theorem adds_checkpoint (checkpoint : Checkpoint) : Adds [.save checkpoint (.ok ())] 1 0 0 :=
  ⟨rfl, rfl, rfl⟩

theorem other_text {item : Item} (other : ∀ proof, item ≠ .proof proof) :
    isProofText item.encode = false := by
  apply Bool.eq_false_iff.mpr
  intro text
  obtain ⟨proof, same⟩ := (is_proof_text_iff item).mp text
  exact other proof same

theorem unmanaged_text {item : Item} (unmanaged : item.isManaged = false) :
    isProofText item.encode = false :=
  other_text fun proof same => by rw [same] at unmanaged; cases unmanaged

theorem adds_proof {signature : Bytes} {resolved : ResolvedBlock WriterId}
    {answer : Except StreamError Unit} {calls : List Call}
    (noted : ProofNoted signature resolved answer calls) :
    Adds calls 0 0 (match answer with | .ok () => 0 | .error _ => 1) := by
  have text : isProofText (Ledger.proofItem signature resolved).encode = true :=
    (is_proof_text_iff _).mpr ⟨_, rfl⟩
  cases noted <;>
    exact ⟨rfl, by simp [Call.isItem, text],
      by simp [List.countP_cons, Call.losesProof, text]⟩

/-- Quiet events other than the start of a round tell nothing of opened and closed blocks. -/
theorem left_open_of_quiet {events : List Event} {isOpen : Bool}
    (quiet : ∀ event ∈ events, event.IsQuiet)
    (started : ∀ round, .roundStarted round (.ok ()) ∈ events → isOpen = true) :
    events.foldl Event.leavesOpen isOpen = isOpen := by
  induction events with
  | nil => rfl
  | cons event later inductive_hypothesis =>
      have same : Event.leavesOpen isOpen event = isOpen := by
        have quietly := quiet event List.mem_cons_self
        unfold Event.leavesOpen
        split
        · rename_i round
          exact (started round List.mem_cons_self).symm
        · cases quietly
        · rfl
      rw [List.foldl_cons, same]
      exact inductive_hypothesis (fun other member => quiet other (List.mem_cons_of_mem _ member))
        fun round member => started round (List.mem_cons_of_mem _ member)

theorem ignored_of_quiet {events : List Event} (quiet : ∀ event ∈ events, event.IsQuiet) :
    events.countP Event.isIgnored = 0 := by
  apply List.countP_eq_zero.mpr
  intro event member ignored
  have quietly := quiet event member
  unfold Event.isIgnored at ignored
  split at ignored
  · exact quietly
  · cases ignored

/-! ### One step -/

section

variable {σ : Type} {platform : Platform σ} {assembler next : Assembler}
  {world after : World (Journal σ)} {events history : List Event}

/-- The phase of a stream that has left a block open or not; a halted one may have done either. -/
def Assembler.MayLeave (assembler : Assembler) (isOpen : Bool) : Prop :=
  match assembler.phase with
  | .assembling _ => isOpen = true
  | .idle | .frozen _ => isOpen = false
  | .halted _ => True

/-- The counters tell what the journal and the history hold. -/
structure Tally (assembler : Assembler) (world : World (Journal σ)) (history : List Event) :
    Prop where
  counters : world.counters.Tell (saves world.platform.calls).length
    (world.platform.calls.countP Call.isItem) (world.platform.calls.countP Call.losesProof)
    world.unproven.size (history.countP Event.isIgnored) (isLeftOpen history)
  asked : world.requests.length = (saves world.platform.calls).length
  phase : assembler.MayLeave (isLeftOpen history)

/-- Every proof of a signature is counted or lost. -/
theorem proofs_tell {signature : Bytes} {blocks : List (ResolvedBlock WriterId)}
    {before later : Counters} {state last : Journal σ}
    {answer : List FinalizedBlock × Option StreamError}
    (written : Ledger.ProofsWritten platform.journaled signature blocks before state answer later
      last) {saved items lost waiting ignored : Nat} {isOpen : Bool}
    (tell : before.Tell saved items lost (waiting + blocks.length) ignored isOpen) :
    ∃ calls failed, state.Extends platform calls last ∧ Adds calls 0 0 failed ∧
      later.Tell saved items (lost + failed) waiting ignored isOpen := by
  induction written generalizing lost with
  | nil counters state => exact ⟨[], 0, .refl state, ⟨rfl, rfl, rfl⟩, tell⟩
  | failed head tail inductive_hypothesis =>
      obtain ⟨first, noted, extended⟩ := journaled_proof head
      obtain ⟨rest, failed, onward, adds, told⟩ := inductive_hypothesis tell.lose
      refine ⟨first ++ rest, 1 + failed, extended.trans onward, (adds_proof noted).append adds, ?_⟩
      rw [← Nat.add_assoc]
      exact told
  | @written resolved _ _ _ _ _ _ _ _ head tail inductive_hypothesis =>
      obtain ⟨first, noted, extended⟩ := journaled_proof head
      obtain ⟨rest, failed, onward, adds, told⟩ := inductive_hypothesis (tell.prove resolved.kind)
      refine ⟨first ++ rest, 0 + failed, extended.trans onward, (adds_proof noted).append adds, ?_⟩
      rw [Nat.zero_add]
      exact told

theorem adds_abandoned {number : UInt64} {header : Item} (other : ∀ proof, header ≠ .proof proof)
    {fault : IoFault} {before reached : Journal σ}
    (left : Assembler.Abandoned platform.journaled number header before fault reached) :
    ∃ calls, before.Extends platform calls reached ∧ Adds calls 0 0 0 := by
  have created (answer : Except IoFault WriterId) : Adds [.create answer] 0 0 0 := adds_nothing rfl
  have released (writer : WriterId) : Adds [.release writer] 0 0 0 := adds_nothing rfl
  cases left with
  | notCreated fault state create => exact ⟨_, .of_create create, created _⟩
  | notOpened writer fault between opened create start =>
      exact ⟨_, (Journal.Extends.of_create create).trans
        ((Journal.Extends.of_open_block start).trans (.of_release opened writer)),
        (created _).append ((adds_nothing rfl).append (released writer))⟩
  | noHeader writer fault between opened written create start write =>
      have unwritten : Adds [.writeItem writer header.encode (.error fault)] 0 0 0 :=
        adds_nothing (by simp [Call.isIdle, other_text other])
      exact ⟨_, (Journal.Extends.of_create create).trans
        ((Journal.Extends.of_open_block start).trans
          ((Journal.Extends.of_write_item write).trans (.of_release written writer))),
        (created _).append ((adds_nothing rfl).append (unwritten.append (released writer)))⟩

theorem Tally.advance (tally : Tally assembler world history) {calls : List Call}
    {saved items lost : Nat} (extended : after.platform.calls = world.platform.calls ++ calls)
    (adds : Adds calls saved items lost)
    (told : after.counters.Tell ((saves world.platform.calls).length + saved)
      (world.platform.calls.countP Call.isItem + items)
      (world.platform.calls.countP Call.losesProof + lost) after.unproven.size
      (history.countP Event.isIgnored + events.countP Event.isIgnored)
      (events.foldl Event.leavesOpen (isLeftOpen history)))
    (asked : after.requests.length = world.requests.length + saved)
    (phase : next.MayLeave (events.foldl Event.leavesOpen (isLeftOpen history))) :
    Tally next after (history ++ events) := by
  have leaves : isLeftOpen (history ++ events) =
      events.foldl Event.leavesOpen (isLeftOpen history) := List.foldl_append
  constructor
  · rw [extended, saves_append, List.length_append, List.countP_append, List.countP_append,
      List.countP_append, leaves, adds.saved, adds.items, adds.lost]
    exact told
  · rw [extended, saves_append, List.length_append, adds.saved, ← tally.asked]
    exact asked
  · rw [leaves]
    exact phase

/-- Events that tell nothing of blocks and signatures, between which no block is closed. -/
theorem Tally.quietly (tally : Tally assembler world history) {calls : List Call} {items : Nat}
    (extended : after.platform.calls = world.platform.calls ++ calls) (adds : Adds calls 0 items 0)
    (quiet : ∀ event ∈ events, event.IsQuiet)
    (started : ∀ round, .roundStarted round (.ok ()) ∈ events → isLeftOpen history = true)
    (told : after.counters.Tell (saves world.platform.calls).length
      (world.platform.calls.countP Call.isItem + items)
      (world.platform.calls.countP Call.losesProof) world.unproven.size
      (history.countP Event.isIgnored) (isLeftOpen history))
    (unproven : after.unproven = world.unproven) (requests : after.requests = world.requests)
    (phase : next.MayLeave (isLeftOpen history)) : Tally next after (history ++ events) := by
  have leaves := left_open_of_quiet quiet started
  refine tally.advance extended adds ?_ (by rw [requests]; rfl) ?_
  · rw [leaves, ignored_of_quiet quiet, unproven]
    exact told
  · rw [leaves]
    exact phase

theorem Tally.leaves_open (tally : Tally assembler world history) {block : OpenBlock}
    (phase : assembler.phase = .assembling block) : isLeftOpen history = true := by
  have left := tally.phase
  rw [Assembler.MayLeave, phase] at left
  exact left

theorem Tally.leaves_closed (tally : Tally assembler world history)
    (phase : assembler.phase = .idle) : isLeftOpen history = false := by
  have left := tally.phase
  rw [Assembler.MayLeave, phase] at left
  exact left

theorem boundary_text (round : Round) (checkpoint : Checkpoint) :
    isProofText (Assembler.boundary round checkpoint).encode = false :=
  other_text fun proof same => by cases same

theorem Assembler.may_leave_closed (settings : StreamSettings) (closed : ClosedBlock)
    (time : Option Instant) :
    Assembler.MayLeave ⟨settings, phaseAfter closed, time⟩ false := by
  cases frozen : closed.frozen <;> simp [MayLeave, phaseAfter, frozen]

/-- A signature proves the blocks that it resolves or loses their proofs; one that resolves none is
ignored. -/
theorem tally_of_signed (tally : Tally assembler world history) {signature : Signature}
    {answer : Except StreamError (List FinalizedBlock)}
    (applied : Ledger.Applied platform.journaled signature.message signature.content world
      (.ok answer, after)) :
    Tally assembler after
      (history ++ [.signed signature (world.unproven.resolve signature.message).1 answer]) := by
  have size : (world.unproven.resolve signature.message).2.size +
      (world.unproven.resolve signature.message).1.length = world.unproven.size := by
    have split := congrArg List.length
      (UnprovenRun.resolved_blocks world.unproven signature.message)
    rw [List.length_append, List.length_map] at split
    rw [Nat.add_comm]
    exact split
  have told := tally.counters
  rw [← size] at told
  have proven {counters : Counters} {state : Journal σ}
      {written : List FinalizedBlock × Option StreamError}
      (found : (world.unproven.resolve signature.message).1 ≠ [])
      (proofs : Ledger.ProofsWritten platform.journaled signature.content
        (world.unproven.resolve signature.message).1 world.counters world.platform written counters
        state) :
      Tally assembler
        { world with
          unproven := (world.unproven.resolve signature.message).2
          counters := counters
          platform := state }
        (history ++ [.signed signature (world.unproven.resolve signature.message).1 answer]) := by
    obtain ⟨calls, failed, extended, adds, later⟩ := proofs_tell proofs told
    refine tally.advance extended.calls adds ?_ rfl tally.phase
    have heeded : [Event.signed signature (world.unproven.resolve signature.message).1
        answer].countP Event.isIgnored = 0 := by
      rcases resolved : (world.unproven.resolve signature.message).1 with _ | ⟨first, others⟩
      · exact absurd resolved found
      · rfl
    rw [heeded]
    exact later
  cases applied with
  | ignored nothing =>
      rw [nothing] at told ⊢
      exact tally.advance (List.append_nil _).symm ⟨rfl, rfl, rfl⟩ told.ignore rfl tally.phase
  | failed error finalized counters state found proofs => exact proven found proofs
  | proven finalized counters state found proofs => exact proven found proofs

/-- Every step keeps the tally. A round that is told to have started leaves a block open. -/
theorem tally_of_moved (tally : Tally assembler world history)
    (moved : Moved platform.journaled assembler world events next after)
    (started : ∀ round, .roundStarted round (.ok ()) ∈ events →
      ∃ block, next.phase = .assembling block) : Tally next after (history ++ events) := by
  cases moved with
  | quiet events quiet =>
      refine tally.quietly (List.append_nil _).symm ⟨rfl, rfl, rfl⟩ quiet ?_ tally.counters rfl rfl
        tally.phase
      intro round member
      obtain ⟨block, phase⟩ := started round member
      exact tally.leaves_open phase
  | opened round number previousHash writer created opened written phase prior next create start
      write =>
      have text : isProofText (Assembler.header assembler.settings number previousHash
        round.time).encode = false := other_text fun proof same => by cases same
      have extended := ((Journal.Extends.of_create create).trans (.of_open_block start)).trans
        (.of_write_item write)
      have told := tally.counters
      rw [tally.leaves_closed phase] at told
      exact tally.advance extended.calls
        (((adds_nothing rfl).append (adds_nothing rfl)).append (adds_item text))
        told.write_item.open_block rfl rfl
  | abandoned round number previousHash fault state event quiet phase prior next left =>
      obtain ⟨calls, extended, adds⟩ := adds_abandoned (fun proof same => by cases same) left
      refine tally.quietly extended.calls adds (by simpa using quiet) ?_ tally.counters rfl rfl
        trivial
      intro round member
      obtain ⟨block, halted⟩ := started round member
      cases halted
  | written block item state phase unmanaged call =>
      exact tally.advance (Journal.Extends.of_write_item call).calls
        (adds_item (unmanaged_text unmanaged)) tally.counters.write_item rfl
        (tally.leaves_open phase)
  | notWritten block item fault state event quiet phase call kind =>
      have text : isProofText item.encode = false := by
        rcases kind with unmanaged | ⟨round, rfl⟩
        · exact unmanaged_text unmanaged
        · exact boundary_text _ _
      have extended := (Journal.Extends.of_write_item call).trans (.of_release state block.writer)
      have unwritten : Adds [.writeItem block.writer item.encode (.error fault)] 0 0 0 :=
        adds_nothing (by simp [Call.isIdle, text])
      exact tally.quietly extended.calls (unwritten.append (adds_nothing rfl))
        (by simpa using quiet) (fun _ _ => tally.leaves_open phase) tally.counters rfl rfl trivial
  | counted round block counted phase added early =>
      exact tally.advance (List.append_nil _).symm ⟨rfl, rfl, rfl⟩ tally.counters rfl
        (tally.leaves_open phase)
  | notSaved round block counted error written saved event quiet phase added due write save =>
      have extended := ((Journal.Extends.of_write_item write).trans (.of_save save)).trans
        (.of_release saved counted.writer)
      exact tally.quietly extended.calls
        (((adds_item (boundary_text _ _)).append (adds_nothing rfl)).append (adds_nothing rfl))
        (by simpa using quiet) (fun _ _ => tally.leaves_open phase) tally.counters.write_item rfl
        rfl trivial
  | closed round block counted written saved phase added due write save =>
      have extended := (Journal.Extends.of_write_item write).trans (.of_save save)
      have size : ((world.setPlatform saved).close counted).unproven.size =
          world.unproven.size + 1 := List.length_append
      have told := tally.counters
      rw [tally.leaves_open phase] at told
      refine tally.advance extended.calls
        ((adds_item (boundary_text _ _)).append (adds_checkpoint _)) ?_ List.length_append ?_
      · rw [size]
        exact told.write_item.close_block
      · exact Assembler.may_leave_closed _ _ _
  | signed signature answer after applied => exact tally_of_signed tally applied

end

/-! ### A whole run -/

namespace Session

variable {σ : Type} {platform : Platform σ} {session : Session (Journal σ)}

/-- A call adds its answer to the history, unless the session stopped. -/
theorem assembled_history {α : Type} (work : Script (Except StreamError α × Assembler))
    (event : Except StreamError α → Event) :
    (session.assemble platform.journaled work event).history = session.history ∨
      ∃ answer, (session.assemble platform.journaled work event).history =
        session.history ++ [event answer] := by
  simp only [assemble]
  split
  · exact .inl rfl
  · split
    · exact .inr ⟨_, rfl⟩
    · exact .inl rfl

/-- A round that is told to have started leaves its block open. -/
theorem started_assembles (operation : Operation) {events : List Event}
    (told : (session.step platform.journaled operation).history = session.history ++ events)
    {round : Round} (started : .roundStarted round (.ok ()) ∈ events) :
    ∃ block, (session.step platform.journaled operation).assembler.phase = .assembling block := by
  have silent (same : (session.step platform.journaled operation).history = session.history) :
      False := by
    rw [same, List.self_eq_append_right] at told
    rw [told] at started
    cases started
  have unstarted {event : Event} (other : ∀ round, event ≠ .roundStarted round (.ok ()))
      (only : (session.step platform.journaled operation).history = session.history ++ [event]) :
      False := by
    rw [only, List.append_cancel_left_eq] at told
    rw [← told] at started
    exact other _ (List.mem_singleton.mp started).symm
  cases operation with
  | startRound opening =>
      simp only [step, assemble] at silent unstarted ⊢
      rcases running : session.stopped with _ | overflow
      · simp only [running] at silent unstarted
        have outcome := Assembler.start_round_outcome platform.journaled session.assembler opening
          session.world
        generalize (Assembler.startRound _ _).run platform.journaled _ = result at *
        cases outcome with
        | refused error ended => exact (unstarted (fun _ same => by cases same) rfl).elim
        | continued block phase => exact ⟨block, phase⟩
        | unanchored phase prior => exact (unstarted (fun _ same => by cases same) rfl).elim
        | overflow overflow phase next => exact (silent rfl).elim
        | halted number previousHash fault state phase prior next left =>
            exact (unstarted (fun _ same => by cases same) rfl).elim
        | opened number previousHash writer created opened written phase prior next create start
            write => exact ⟨_, rfl⟩
      · simp only [running] at silent
        exact (silent trivial).elim
  | writeItem item =>
      rcases assembled_history _ _ with same | ⟨answer, only⟩
      · exact (silent same).elim
      · exact (unstarted (fun _ same => by cases same) only).elim
  | endRound round =>
      rcases assembled_history _ _ with same | ⟨answer, only⟩
      · exact (silent same).elim
      · exact (unstarted (fun _ same => by cases same) only).elim
  | sign signature =>
      obtain ⟨answer, after, _, stepped⟩ := session.signed_of_step platform.journaled signature
      have only := congrArg Session.history stepped
      exact (unstarted (fun _ same => by cases same) only).elim

/-- The calls of a session add up with its counters and its history. -/
structure Balances (session : Session (Journal σ)) : Prop where
  closed : session.world.counters.closed = .ofNat (saves session.world.platform.calls).length
  requests : session.world.counters.requests = session.world.counters.closed
  asked : session.world.requests.length = (saves session.world.platform.calls).length
  /-- One more block was opened if one is open, or was open when the stream halted. -/
  opened : session.world.counters.opened =
    session.world.counters.closed + if isLeftOpen session.history then 1 else 0
  leftOpen : session.assembler.MayLeave (isLeftOpen session.history)
  items : session.world.counters.items =
    .ofNat (session.world.platform.calls.countP Call.isItem)
  ignored : session.world.counters.ignored = .ofNat (session.history.countP Event.isIgnored)
  /-- Every closed block has its proof, waits for it or has lost it. -/
  proofs : (saves session.world.platform.calls).length < 2 ^ 64 →
    session.world.counters.closed.toNat =
      session.world.counters.direct.toNat + session.world.counters.indirect.toNat +
        session.world.unproven.size + session.world.platform.calls.countP Call.losesProof
  /-- What closed blocks lack a proof, whether it can still be written or not. -/
  unproven : (saves session.world.platform.calls).length < 2 ^ 64 →
    session.world.counters.unproven = .ok (.ofNat
      (session.world.unproven.size + session.world.platform.calls.countP Call.losesProof))

theorem balances_of_tally (tally : Tally session.assembler session.world session.history) :
    session.Balances := by
  have told := tally.counters
  obtain ⟨direct, indirect, isDirect, isIndirect, balance⟩ := told.balance
  have proofs : (saves session.world.platform.calls).length < 2 ^ 64 →
      session.world.counters.closed.toNat =
        session.world.counters.direct.toNat + session.world.counters.indirect.toNat +
          session.world.unproven.size + session.world.platform.calls.countP Call.losesProof := by
    intro bounded
    rw [told.closed, isDirect, isIndirect, UInt64.toNat_ofNat', UInt64.toNat_ofNat',
      UInt64.toNat_ofNat']
    omega
  refine ⟨told.closed, ?_, tally.asked, ?_, tally.phase, told.items, told.ignored, proofs, ?_⟩
  · rw [told.requests, told.closed]
  · rw [told.opened, told.closed, UInt64.ofNat_add]
    cases isLeftOpen session.history <;> rfl
  · intro bounded
    apply Counters.unproven_of_balance
    rw [proofs bounded, Nat.add_assoc]

/-- A session whose counters tell what happened, with an assembler in line with its world. -/
structure Keeps (session : Session (Journal σ)) : Prop where
  coherent : session.assembler.Coherent session.world
  tally : Tally session.assembler session.world session.history

theorem keeps_fresh {assembler : Assembler} (idle : assembler.phase = .idle) (view : View)
    (state : σ) : (fresh assembler view (⟨[], state⟩ : Journal σ)).Keeps where
  coherent := Assembler.coherent_fresh idle view _
  tally := ⟨.zero, rfl, by rw [Assembler.MayLeave]; simp only [fresh, idle]; rfl⟩

theorem Keeps.step (keeps : session.Keeps) (operation : Operation) :
    (session.step platform.journaled operation).Keeps := by
  obtain ⟨events, moved, history⟩ := step_moves platform.journaled keeps.coherent operation
  refine ⟨Assembler.coherent_of_moved keeps.coherent moved, ?_⟩
  rw [history]
  exact tally_of_moved keeps.tally moved fun _ member => started_assembles operation history member

theorem Keeps.run (keeps : session.Keeps) (operations : List Operation) :
    (session.run platform.journaled operations).Keeps := by
  induction operations generalizing session with
  | nil => exact keeps
  | cons operation later inductive_hypothesis =>
      exact inductive_hypothesis (keeps.step operation)

/-- Whatever is called for and whatever fails, the counters account for every block: as many were
closed as checkpoints saved and signatures asked for, and each has its proof, waits for it, or has
lost it. As long as no proof is lost, the blocks without one are those that wait. -/
theorem counters_account_for_blocks {settings : StreamSettings} {startup : Startup}
    {assembler : Assembler} {view : View}
    (started : Assembler.start settings startup = .ok (assembler, view)) (platform : Platform σ)
    (state : σ) (operations : List Operation) :
    let session := (fresh assembler view ⟨[], state⟩).run platform.journaled operations
    session.Balances ∧
      ((saves session.world.platform.calls).length < 2 ^ 64 →
        session.world.platform.calls.countP Call.losesProof = 0 →
          session.world.counters.unproven = .ok (.ofNat session.world.unproven.size)) := by
  intro session
  have keeps : session.Keeps :=
    (keeps_fresh (Assembler.start_idle started) view state).run operations
  have balances := balances_of_tally keeps.tally
  refine ⟨balances, ?_⟩
  intro bounded calm
  rw [balances.unproven bounded, calm, Nat.add_zero]

/-- The first call that fails is the one that writes the proof of the only block. -/
theorem lost_proof_is_accounted_for :
    Assembler.start .default .genesis =
        .ok (⟨.default, .idle, none⟩, ⟨Chain.start .empty (some .genesis), .empty, none⟩) ∧
      ((Lasting.session 6 oneBlock).world.counters = ⟨1, 1, 3, 1, 0, 0, 0⟩ ∧
        (Lasting.session 6 oneBlock).world.platform.calls.countP Call.losesProof = 1) ∧
      (Lasting.session 6 oneBlock).Balances := by
  have started : Assembler.start .default .genesis =
      .ok (⟨.default, .idle, none⟩, ⟨Chain.start .empty (some .genesis), .empty, none⟩) := rfl
  exact ⟨started, by decide +kernel,
    (counters_account_for_blocks started Lasting.platform _ oneBlock).1⟩

end Session
end ProvenBlocks
