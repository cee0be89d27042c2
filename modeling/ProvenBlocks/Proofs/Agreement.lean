import ProvenBlocks.Proofs.AllOrNothing
import ProvenBlocks.Proofs.Siblings
import ProvenBlocks.Proofs.Stages

/-!
How phase, view and ledger agree. Readers are shown an open block exactly while one is open, the
open block is the next of the chain and has taken in what was accepted since it was opened, and the
unproven blocks are linked up to the newest block of the chain. Every step of a session keeps this,
whatever the platform answers, and a session stops only where the numbers end.
-/

namespace ProvenBlocks

/-! ### What feeds the roots -/

/-- The fold of the items that feed a root, and how many of them there are. -/
def RunningDigest.ofItems (root : Root) (items : List Item) : RunningDigest :=
  ⟨rootOf root items, items.countP fun item => item.root = some root⟩

theorem RunningDigest.of_items_feeding {root : Root} {item : Item} (feeds : item.root = some root)
    (items : List Item) : ofItems root (items ++ [item]) = (ofItems root items).add item.hash := by
  rw [ofItems, root_of_append_feeding feeds, List.countP_append]
  simp [feeds, ofItems, add]

theorem RunningDigest.of_items_other {root : Root} {item : Item} (other : item.root ≠ some root)
    (items : List Item) : ofItems root (items ++ [item]) = ofItems root items := by
  rw [ofItems, root_of_append_other other, List.countP_append]
  simp [other, ofItems]

/-- The open block and the view have taken in these items since the block was opened. -/
structure OpenBlock.HasTaken (block : OpenBlock) (view : View) (items : List Item) : Prop where
  input : block.input = RunningDigest.ofItems .input items
  output : view.outputs.running = RunningDigest.ofItems .output items

theorem OpenBlock.HasTaken.add {block : OpenBlock} {view : View} {items : List Item}
    (taken : block.HasTaken view items) (item : Item) :
    (block.add item).HasTaken (view.add item) (items ++ [item]) := by
  obtain ⟨input, output⟩ := taken
  rcases fed : item.root with _ | _ | _
  · constructor
    · rw [RunningDigest.of_items_other (by simp [fed]), ← input]
      simp [OpenBlock.add, fed]
    · rw [RunningDigest.of_items_other (by simp [fed]), ← output]
      simp [View.add, fed]
  · constructor
    · rw [RunningDigest.of_items_feeding fed, ← input]
      simp [OpenBlock.add, fed]
    · rw [RunningDigest.of_items_other (by simp [fed]), ← output]
      simp [View.add, fed]
  · constructor
    · rw [RunningDigest.of_items_other (by simp [fed]), ← input]
      simp [OpenBlock.add, fed]
    · rw [RunningDigest.of_items_feeding fed, ← output]
      simp [View.add, fed, OutputRoots.add]

/-! ### Linked runs -/

namespace UnprovenRun

variable {ω : Type} {blocks : List (UnprovenBlock ω)}

theorem IsLinked.suffix {later : List (UnprovenBlock ω)} (linked : IsLinked blocks)
    (suffix : later <:+ blocks) : IsLinked later where
  folded := fun block member => linked.folded block (suffix.mem member)
  joined := linked.joined.suffix suffix

theorem IsLinked.append {block : UnprovenBlock ω} (linked : IsLinked blocks)
    (folded : block.hash = block.previousHash.linkAll block.steps)
    (joined : ∀ newest, blocks.getLast? = some newest → block.previousHash = newest.hash) :
    IsLinked (blocks ++ [block]) where
  folded := by
    intro other member
    rcases List.mem_append.mp member with earlier | same
    · exact linked.folded other earlier
    · rwa [List.mem_singleton.mp same]
  joined := by
    refine List.isChain_append.mpr ⟨linked.joined, List.isChain_singleton _, ?_⟩
    intro newest last first head
    cases head
    exact joined newest last

end UnprovenRun

/-! ### What a step keeps -/

section

variable {σ : Type} {platform : Platform σ} {assembler next : Assembler} {world after : World σ}
  {events history : List Event}

theorem Assembler.open_number_iff (number : UInt64) :
    assembler.openNumber = some number ↔
      ∃ block, assembler.phase = .assembling block ∧ block.number = number := by
  rcases phase : assembler.phase with _ | block | _ | _ <;> simp [openNumber, phase]

/-- The open block has taken in what was accepted since a block was last closed. -/
theorem has_taken_of_moved
    (idle : assembler.phase = .idle → (Production.ofHistory history).taken = [])
    (taken : ∀ block, assembler.phase = .assembling block →
      block.HasTaken world.view (Production.ofHistory history).taken)
    (moved : Moved platform assembler world events next after) (block : OpenBlock)
    (open_ : next.phase = .assembling block) :
    block.HasTaken after.view (Production.ofHistory (history ++ events)).taken := by
  rw [Production.of_history_append]
  cases moved with
  | quiet events quiet =>
      rw [Production.observe_quiet quiet]
      exact taken block open_
  | opened round number previousHash writer created opened written phase prior next create start
      write =>
      cases open_
      change OpenBlock.HasTaken _ _ (Production.ofHistory history).taken
      rw [idle phase]
      exact ⟨rfl, rfl⟩
  | written block item state phase unmanaged call =>
      cases open_
      exact (taken block phase).add item
  | counted round block counted phase added early =>
      cases open_
      obtain ⟨rfl, _⟩ := Assembler.add_round_ok added
      exact ⟨(taken block phase).input, (taken block phase).output⟩
  | closed => exact absurd open_ (Assembler.phase_after_ne_assembling _ _)
  | signed signature answer after applied => cases applied <;> exact taken block open_
  | abandoned | notWritten | notSaved => cases open_

/-- A closed block is joined to the newest unproven one, and signatures take blocks from the
front. -/
theorem linked_of_moved (coherent : assembler.Coherent world)
    (linked : UnprovenRun.IsLinked world.unproven.blocks)
    (moved : Moved platform assembler world events next after) :
    UnprovenRun.IsLinked after.unproven.blocks := by
  cases moved with
  | closed round block counted written saved phase added due write save =>
      have follows := Assembler.follows_of_add_round added (coherent.follows block phase)
      apply linked.append rfl
      intro newest last
      have prior := (coherent.linked newest last).2.symm.trans follows.prior
      exact (Option.some.inj prior).symm
  | signed signature answer after applied =>
      have suffix := UnprovenRun.resolve_suffix world.unproven signature.message
      cases applied <;> exact linked.suffix suffix
  | _ => exact linked

end

/-! ### Sessions -/

namespace Session

/-- What holds between assembler, world and history of a session at every moment. -/
structure IsConsistent {σ : Type} (given : StreamSettings) (session : Session σ) : Prop where
  coherent : session.assembler.Coherent session.world
  settings : session.assembler.settings = given
  shown : session.world.view.openBlock = session.assembler.openNumber
  unfinished : ∀ block, session.assembler.phase = .assembling block →
    block.rounds < given.roundsPerBlock
  idle : session.assembler.phase = .idle → session.production.taken = []
  taken : ∀ block, session.assembler.phase = .assembling block →
    block.HasTaken session.world.view session.production.taken
  linked : UnprovenRun.IsLinked session.world.unproven.blocks
  stopped : session.stopped ≠ none →
    ∃ last, session.world.view.chain.lastNumber = some last ∧ last.toNat = 2 ^ 64 - 1

section

variable {σ : Type} {platform : Platform σ} {settings : StreamSettings} {session : Session σ}

/-- The rounds of an open block fit their word, for they stay below a word of the settings. -/
theorem add_round_fits {block : OpenBlock} (unfinished : block.rounds < settings.roundsPerBlock) :
    ∃ counted, Assembler.addRound block = .ok counted := by
  have fewer := UInt32.lt_iff_toNat_lt.mp unfinished
  have bounded := settings.roundsPerBlock.toNat_lt
  exact ⟨_, if_pos (by omega)⟩

/-- Only the search for a number can stop a session that runs. -/
theorem IsConsistent.stops (consistent : session.IsConsistent settings)
    (running : session.stopped = none) (operation : Operation)
    (stops : (session.step platform operation).stopped ≠ none) :
    ∃ last, (session.step platform operation).world.view.chain.lastNumber = some last ∧
      last.toNat = 2 ^ 64 - 1 := by
  cases operation with
  | startRound round =>
      simp only [step, assemble, running] at stops ⊢
      have outcome := Assembler.start_round_outcome platform session.assembler round session.world
      generalize (Assembler.startRound _ _).run platform _ = result at outcome stops ⊢
      cases outcome with
      | overflow overflow phase next => exact Chain.next_number_overflow next
      | _ => exact absurd rfl stops
  | writeItem item =>
      simp only [step, assemble, running] at stops
      have outcome := Assembler.write_item_outcome platform session.assembler item session.world
      generalize (Assembler.writeItem _ _).run platform _ = result at outcome stops
      cases outcome <;> exact absurd rfl stops
  | endRound round =>
      simp only [step, assemble, running] at stops
      have outcome := Assembler.end_round_outcome platform consistent.coherent round
      generalize (Assembler.endRound _ _).run platform _ = result at outcome stops
      cases outcome with
      | overflow block overflow phase counted =>
          obtain ⟨_, fits⟩ := add_round_fits (consistent.unfinished block phase)
          rw [fits] at counted
          cases counted
      | _ => exact absurd rfl stops
  | sign signature =>
      obtain ⟨answer, after, applied, stepped⟩ := session.signed_of_step platform signature
      rw [stepped] at stops
      exact absurd running stops

/-- A session that has stopped stays on its chain. -/
theorem step_stopped_chain (stopped : session.stopped ≠ none) (operation : Operation) :
    (session.step platform operation).world.view.chain = session.world.view.chain := by
  obtain ⟨overflow, stopped⟩ := Option.ne_none_iff_exists'.mp stopped
  cases operation with
  | startRound | writeItem | endRound => simp only [step, assemble, stopped]
  | sign signature =>
      obtain ⟨answer, after, applied, stepped⟩ := session.signed_of_step platform signature
      rw [stepped]
      cases applied <;> rfl

theorem IsConsistent.step (positive : 0 < settings.roundsPerBlock)
    (consistent : session.IsConsistent settings) (operation : Operation) :
    (session.step platform operation).IsConsistent settings := by
  obtain ⟨events, moved, history⟩ := step_moves platform consistent.coherent operation
  constructor
  · exact Assembler.coherent_of_moved consistent.coherent moved
  · exact (settings_of_moved moved).trans consistent.settings
  · exact shown_of_moved moved consistent.shown
  · exact unfinished_of_moved positive consistent.settings consistent.unfinished moved
  · intro phase
    rw [production, history]
    exact taken_of_moved consistent.idle moved phase
  · rw [production, history]
    exact has_taken_of_moved consistent.idle consistent.taken moved
  · exact linked_of_moved consistent.coherent consistent.linked moved
  · intro stops
    by_cases running : session.stopped = none
    · exact consistent.stops running operation stops
    · rw [step_stopped_chain running]
      exact consistent.stopped running

theorem IsConsistent.run (positive : 0 < settings.roundsPerBlock)
    (consistent : session.IsConsistent settings) (operations : List Operation) :
    (session.run platform operations).IsConsistent settings := by
  induction operations generalizing session with
  | nil => exact consistent
  | cons operation later inductive_hypothesis =>
      exact inductive_hypothesis (consistent.step positive operation)

theorem consistent_fresh {startup : Startup} {assembler : Assembler} {view : View}
    (started : Assembler.start settings startup = .ok (assembler, view)) (state : σ) :
    (fresh assembler view state).IsConsistent settings := by
  obtain ⟨allowed, valid, rfl, rfl⟩ := Assembler.start_ok started
  constructor
  · exact Assembler.coherent_fresh rfl _ state
  · rfl
  · rfl
  · exact fun block phase => by cases phase
  · exact fun _ => rfl
  · exact fun block phase => by cases phase
  · exact ⟨(fun block member => by cases member), List.isChain_nil⟩
  · exact fun stopped => absurd rfl stopped

end

/-- How the open block stands to chain, settings and accepted items. -/
structure OpenAgrees {σ : Type} (settings : StreamSettings) (session : Session σ)
    (block : OpenBlock) : Prop where
  initialized : session.world.view.chain.isInitialized = true
  next : session.world.view.chain.nextNumber = .ok block.number
  prior : session.world.view.chain.prior = some block.previousHash
  rounds : block.rounds < settings.roundsPerBlock
  counts : ∃ counted, Assembler.addRound block = .ok counted
  taken : block.HasTaken session.world.view session.production.taken

/-- Phase, view and ledger of a session agree. -/
structure Agrees {σ : Type} (settings : StreamSettings) (session : Session σ) : Prop where
  /-- Readers are shown a block exactly while it is open. -/
  shown : ∀ number, session.world.view.openBlock = some number ↔
    ∃ block, session.assembler.phase = .assembling block ∧ block.number = number
  assembling : ∀ block, session.assembler.phase = .assembling block →
    session.OpenAgrees settings block
  /-- Nothing is accepted between blocks, so all that was accepted since a block was last closed was
  accepted since the open one was opened. -/
  between : session.assembler.phase = .idle → session.production.taken = []
  current : session.world.view.currentNumber =
    session.assembler.openNumber.or session.world.view.chain.lastNumber
  newest : ∀ newest, session.world.unproven.blocks.getLast? = some newest →
    session.world.view.chain.lastNumber = some newest.number ∧
      session.world.view.chain.prior = some newest.hash
  linked : UnprovenRun.IsLinked session.world.unproven.blocks
  /-- A session that has not reached the greatest number has not stopped. -/
  stopped : session.stopped ≠ none →
    ∃ last, session.world.view.chain.lastNumber = some last ∧ last.toNat = 2 ^ 64 - 1

variable {σ : Type} {platform : Platform σ} {settings : StreamSettings}

theorem IsConsistent.agrees {session : Session σ} (consistent : session.IsConsistent settings) :
    session.Agrees settings where
  shown := by
    intro number
    rw [consistent.shown]
    exact Assembler.open_number_iff number
  assembling := by
    intro block phase
    have follows := consistent.coherent.follows block phase
    have unfinished := consistent.unfinished block phase
    refine ⟨?_, follows.next, follows.prior, unfinished, add_round_fits unfinished,
      consistent.taken block phase⟩
    rw [Chain.isInitialized, follows.prior, Option.isSome_some]
  between := consistent.idle
  current := by rw [View.currentNumber, consistent.shown]
  newest := consistent.coherent.linked
  linked := consistent.linked
  stopped := consistent.stopped

/-- Phase, view and ledger agree in every session from any start, whatever the order of rounds,
items and signatures and whichever calls on writers and on the stored checkpoint fail. -/
theorem phase_view_and_ledger_agree {startup : Startup} {assembler : Assembler} {view : View}
    (started : Assembler.start settings startup = .ok (assembler, view)) (platform : Platform σ)
    (state : σ) (operations : List Operation) :
    ((fresh assembler view state).run platform operations).Agrees settings := by
  have positive := StreamSettings.rounds_positive (Assembler.start_ok started).1
  exact ((consistent_fresh started state).run positive operations).agrees

/-- One block waits for its proof while a transaction and its result join the next one. -/
theorem second_block_agrees :
    let genesis : View := ⟨Chain.start .empty (some .genesis), .empty, none⟩
    let round : Round := ⟨1, ⟨1, 0⟩, false, []⟩
    let session := (fresh ⟨.default, .idle, none⟩ genesis (Depot.empty .log (.memory none))).run
      Depot.platform [.startRound round, .endRound round, .startRound round,
        .writeItem (.transaction ⟨[1]⟩)]
    Assembler.start .default .genesis = .ok (⟨.default, .idle, none⟩, genesis) ∧
      session.assembler.openNumber = some 1 ∧ session.world.unproven.numbers = [0] ∧
      session.Agrees .default := by
  intro genesis round session
  have started : Assembler.start .default .genesis =
      .ok (⟨.default, .idle, none⟩, genesis) := rfl
  exact ⟨started, by decide +kernel, by decide +kernel,
    phase_view_and_ledger_agree started Depot.platform _ _⟩

end Session

end ProvenBlocks
