import ProvenBlocks.Proofs.Queries
import ProvenBlocks.Proofs.Stores

/-!
Closing a block is all or nothing. The ledger never refuses a closed block, since the newest
unproven block stays the newest block of the chain, and the rounds of a block fit their word, since
they stay below those that the settings ask for. What is left are the calls on the writer and on the
stored checkpoint; where one of them fails, readers, store and ledger are as before.
-/

namespace ProvenBlocks

/-! ### Stores that a failed save leaves alone -/

structure Platform.StoresSafely {σ : Type} (platform : Platform σ)
    (load : σ → Except StreamError (Option Checkpoint)) (sound : σ → Prop) : Prop
    extends platform.Stores load sound where
  notSaved : ∀ {state after : σ} {checkpoint : Checkpoint} {error : StreamError}, sound state →
    platform.save checkpoint state = (.error error, after) →
      sound after ∧ load after = load state

theorem Depot.stores_safely : Depot.platform.StoresSafely Depot.load Depot.KeepsInMemory where
  toStores := Depot.stores_in_memory
  notSaved := by
    intro depot after checkpoint error sound refused
    simp only [Depot.platform, Depot.save] at refused
    obtain ⟨stored, memory⟩ := sound
    rw [memory] at refused
    split at refused
    · cases refused
      exact ⟨⟨stored, memory⟩, rfl⟩
    · cases refused

section

variable {σ α : Type} {platform : Platform σ} {load : σ → Except StreamError (Option Checkpoint)}
  {sound : σ → Prop}

theorem World.answer_sound (stores : platform.StoresSafely load sound) {world : World σ}
    (isSound : sound world.platform) (effect : Effect) :
    sound (world.answer platform effect).2.platform := by
  cases effect with
  | createWriter => exact (stores.create isSound).1
  | openBlock writer number => exact (stores.openBlock writer number isSound).1
  | writeItem writer content => exact (stores.writeItem writer content isSound).1
  | closeBlock writer => exact (stores.closeBlock writer isSound).1
  | release writer => exact (stores.release writer isSound).1
  | save checkpoint =>
      rcases call : platform.save checkpoint world.platform with ⟨error | _, after⟩
      · simp only [World.answer, call]
        exact (stores.notSaved isSound call).1
      · simp only [World.answer, call]
        exact (stores.save isSound call).1
  | enqueue block =>
      simp only [World.answer]
      cases world.unproven.push block <;> exact isSound
  | requestSignature | readView | writeView | resolve | count => exact isSound

theorem Script.run_sound (stores : platform.StoresSafely load sound) (script : Script α)
    {world : World σ} (isSound : sound world.platform) :
    sound (script.run platform world).2.platform := by
  induction script generalizing world with
  | done value => exact isSound
  | stop overflow => exact isSound
  | perform effect next inductive_hypothesis =>
      exact inductive_hypothesis _ (World.answer_sound stores isSound effect)

end

/-! ### What holds of every session -/

/-- Assembler and world are in line, the settings stay, an open block has fewer rounds than they ask
for, and the platform stays sound. -/
structure Session.InOrder {σ : Type} (given : StreamSettings) (sound : σ → Prop)
    (session : Session σ) : Prop where
  coherent : session.assembler.Coherent session.world
  settings : session.assembler.settings = given
  unfinished : ∀ block, session.assembler.phase = .assembling block →
    block.rounds < given.roundsPerBlock
  sound : sound session.world.platform

section

variable {σ : Type} {platform : Platform σ} {settings : StreamSettings}
  {load : σ → Except StreamError (Option Checkpoint)} {sound : σ → Prop}

theorem settings_of_moved {assembler next : Assembler} {world after : World σ}
    {events : List Event} (moved : Moved platform assembler world events next after) :
    next.settings = assembler.settings := by
  cases moved <;> rfl

theorem unfinished_of_moved (positive : 0 < settings.roundsPerBlock)
    {assembler next : Assembler} {world after : World σ} {events : List Event}
    (same : assembler.settings = settings)
    (unfinished : ∀ block, assembler.phase = .assembling block →
      block.rounds < settings.roundsPerBlock)
    (moved : Moved platform assembler world events next after) (block : OpenBlock)
    (open_ : next.phase = .assembling block) : block.rounds < settings.roundsPerBlock := by
  cases moved with
  | quiet events quiet => exact unfinished block open_
  | signed signature answer after applied => exact unfinished block open_
  | opened =>
      cases open_
      exact positive
  | written block item state phase unmanaged call =>
      cases open_
      rw [OpenBlock.add_rounds]
      exact unfinished block phase
  | counted round block counted phase added early =>
      cases open_
      rw [← same]
      exact early.1
  | closed => exact absurd open_ (Assembler.phase_after_ne_assembling _ _)
  | abandoned | notWritten | notSaved => cases open_

namespace Session

theorem step_sound (stores : platform.StoresSafely load sound) {session : Session σ}
    (isSound : sound session.world.platform) (operation : Operation) :
    sound (session.step platform operation).world.platform := by
  obtain ⟨_, script, ran⟩ := step_ran platform session operation
  rw [ran]
  exact script.run_sound stores isSound

theorem InOrder.step (stores : platform.StoresSafely load sound)
    (positive : 0 < settings.roundsPerBlock) {session : Session σ}
    (inOrder : session.InOrder settings sound) (operation : Operation) :
    (session.step platform operation).InOrder settings sound := by
  obtain ⟨events, moved, _⟩ := Session.step_moves platform inOrder.coherent operation
  constructor
  · exact Assembler.coherent_of_moved inOrder.coherent moved
  · exact (settings_of_moved moved).trans inOrder.settings
  · exact unfinished_of_moved positive inOrder.settings inOrder.unfinished moved
  · exact step_sound stores inOrder.sound operation

theorem InOrder.run (stores : platform.StoresSafely load sound)
    (positive : 0 < settings.roundsPerBlock) {session : Session σ}
    (inOrder : session.InOrder settings sound) (operations : List Operation) :
    (session.run platform operations).InOrder settings sound := by
  induction operations generalizing session with
  | nil => exact inOrder
  | cons operation later inductive_hypothesis =>
      exact inductive_hypothesis (inOrder.step stores positive operation)

theorem in_order_fresh {startup : Startup} {assembler : Assembler} {view : View}
    (started : Assembler.start settings startup = .ok (assembler, view)) {state : σ}
    (isSound : sound state) : (Session.fresh assembler view state).InOrder settings sound := by
  have idle := Assembler.start_idle started
  obtain ⟨allowed, valid, rfl, rfl⟩ := Assembler.start_ok started
  constructor
  · exact Assembler.coherent_fresh idle _ state
  · rfl
  · intro block phase
    cases phase
  · exact isSound

end Session
/-! ### The two ways to end -/

/-- The block is closed: its checkpoint is stored, readers are answered for it, it is the newest
unproven block, and one signature was asked for. -/
structure ClosedInFull (load : σ → Except StreamError (Option Checkpoint)) (before : World σ)
    (closed : ClosedBlock) (next : Assembler) (after : World σ) : Prop where
  stored : load after.platform = .ok (some (next.checkpoint after.view))
  storedNumber : (next.checkpoint after.view).blockNumber = some closed.number
  storedHash : (next.checkpoint after.view).lastHash = some closed.hash
  found : after.view.hashOf closed.number = some closed.hash
  lastHash : after.view.lastHash = some closed.hash
  current : after.view.currentNumber = some closed.number
  unproven : ∃ newest, after.unproven.blocks = before.unproven.blocks ++ [newest] ∧
    newest.number = closed.number ∧ newest.hash = closed.hash
  requested : after.requests = before.requests ++ [closed.hash]

/-- Readers, checkpoint, store and ledger are as before; the open block is gone and the stream is
halted. -/
structure LeftAlone (load : σ → Except StreamError (Option Checkpoint)) (assembler : Assembler)
    (before : World σ) (error : StreamError) (next : Assembler) (after : World σ) : Prop where
  found : ∀ number, after.view.hashOf number = before.view.hashOf number
  seed : after.view.seed = before.view.seed
  lastHash : after.view.lastHash = before.view.lastHash
  checkpoint : next.checkpoint after.view = assembler.checkpoint before.view
  stored : load after.platform = load before.platform
  unproven : after.unproven = before.unproven
  requests : after.requests = before.requests
  current : after.view.currentNumber = before.view.chain.lastNumber
  halted : next.phase = .halted error.message

/-- The error of the call that failed, on the writer of the block or on the stored checkpoint. -/
inductive CallFailed (platform : Platform σ) (block : OpenBlock) (before : World σ) :
    StreamError → Prop
  | write (content : Bytes) (fault : IoFault) (state : σ)
      (write : platform.writeItem block.writer content before.platform = (.error fault, state)) :
      CallFailed platform block before (.writer block.number fault.message)
  | save (content : Bytes) (checkpoint : Checkpoint) (written saved : σ) (error : StreamError)
      (write : platform.writeItem block.writer content before.platform = (.ok (), written))
      (save : platform.save checkpoint written = (.error error, saved)) :
      CallFailed platform block before error

namespace Assembler

variable {assembler : Assembler} {world : World σ} {block : OpenBlock} {round : Round}

theorem closed_in_full (stores : platform.StoresSafely load sound)
    (isSound : sound world.platform) {written saved : σ}
    (write : platform.writeItem block.writer
      (boundary round (block.checkpoint world.view)).encode world.platform = (.ok (), written))
    (save : platform.save (block.checkpoint world.view) written = (.ok (), saved)) :
    ClosedInFull load world (block.closed world.view round)
      ⟨assembler.settings, phaseAfter (block.closed world.view round), some block.time⟩
      ((world.setPlatform saved).close block) where
  stored := by
    have kept := (stores.writeItem block.writer
      (boundary round (block.checkpoint world.view)).encode isSound).1
    rw [write] at kept
    exact (stores.save kept save).2
  storedNumber := rfl
  storedHash := Window.push_newest _ _
  found := world.view.chain.hash_of_extended block.number (block.hash world.view)
  lastHash := world.view.chain.last_hash_extended block.number (block.hash world.view)
  current := rfl
  unproven := ⟨block.unproven world.view, rfl, rfl, rfl⟩
  requested := rfl

theorem left_alone (stores : platform.StoresSafely load sound) (isSound : sound world.platform)
    (error : StreamError) {after : World σ}
    (finished : Finished platform block round world (.ok (.error error), after)) :
    LeftAlone load assembler world error (assembler.halted error) after.hideOpenBlock := by
  have kept := stores.writeItem block.writer
    (boundary round (block.checkpoint world.view)).encode isSound
  cases finished with
  | noBoundary fault state write =>
      rw [write] at kept
      have released := stores.release block.writer kept.1
      exact ⟨fun _ => rfl, rfl, rfl, rfl, released.2.trans kept.2, rfl, rfl, rfl, rfl⟩
  | notSaved error written saved write save =>
      rw [write] at kept
      obtain ⟨still, unsaved⟩ := stores.notSaved kept.1 save
      have released := stores.release block.writer still
      have stored := (released.2.trans unsaved).trans kept.2
      exact ⟨fun _ => rfl, rfl, rfl, rfl, stored, rfl, rfl, rfl, rfl⟩

end Assembler

/-- Closing a block is all or nothing. In every session and with a block open, a round that is due
to close it either closes it in full, or reports a failed call on the writer or on the stored
checkpoint and leaves everything alone but the open block. It does not overflow, and the ledger
does not refuse the block. -/
theorem closing_is_all_or_nothing (stores : platform.StoresSafely load sound) {startup : Startup}
    {assembler : Assembler} {view : View}
    (started : Assembler.start settings startup = .ok (assembler, view)) {state : σ}
    (isSound : sound state) (operations : List Operation) {block : OpenBlock}
    (phase : ((Session.fresh assembler view state).run platform operations).assembler.phase =
      .assembling block) {round : Round}
    (due : settings.roundsPerBlock ≤ block.rounds + 1 ∨ round.freeze = true) :
    let session := (Session.fresh assembler view state).run platform operations
    (∃ closed next after,
      (session.assembler.endRound round).run platform session.world =
          (.ok (.ok (some closed), next), after) ∧
        closed.number = block.number ∧ ClosedInFull load session.world closed next after) ∨
    ∃ error next after,
      (session.assembler.endRound round).run platform session.world =
          (.ok (.error error, next), after) ∧
        CallFailed platform block session.world error ∧
        LeftAlone load session.assembler session.world error next after := by
  intro session
  have positive := StreamSettings.rounds_positive (Assembler.start_ok started).1
  have inOrder : session.InOrder settings sound :=
    (Session.in_order_fresh started isSound).run stores positive operations
  have writable : session.assembler.checkWritable = .ok () := by
    simp only [Assembler.checkWritable, session, phase]
  have outcome := Assembler.end_round_outcome platform inOrder.coherent round
  generalize (session.assembler.endRound round).run platform session.world = result at outcome ⊢
  cases outcome with
  | refused error ended =>
      rw [writable] at ended
      contradiction
  | idle idle => cases idle.symm.trans phase
  | overflow other overflow same counted =>
      cases same.symm.trans phase
      have unfinished := UInt32.lt_iff_toNat_lt.mp (inOrder.unfinished block phase)
      have bounded := settings.roundsPerBlock.toNat_lt
      have fits : block.rounds.toNat + 1 < 2 ^ 32 := by omega
      rw [Assembler.addRound, if_pos fits] at counted
      contradiction
  | continued other counted same added early =>
      cases same.symm.trans phase
      obtain ⟨rfl, _⟩ := Assembler.add_round_ok added
      rw [inOrder.settings] at early
      rcases due with full | freeze
      · exact absurd early.1 (UInt32.not_lt.mpr full)
      · exact absurd freeze early.2
  | halted other counted error after same added due finished =>
      cases same.symm.trans phase
      obtain ⟨rfl, _⟩ := Assembler.add_round_ok added
      refine .inr ⟨error, _, _, rfl, ?_, ?_⟩
      · cases finished with
        | noBoundary fault state write => exact .write _ fault state write
        | notSaved error written saved write save =>
            exact .save _ _ written saved error write save
      · exact Assembler.left_alone stores inOrder.sound error finished
  | closed other counted closed after same added due finished =>
      cases same.symm.trans phase
      obtain ⟨rfl, _⟩ := Assembler.add_round_ok added
      cases finished with
      | closed written saved write save =>
          refine .inl ⟨_, _, _, rfl, rfl, ?_⟩
          exact Assembler.closed_in_full stores inOrder.sound write save

/-- A block that was just opened on a store in memory, and a freeze round that is due to close
it. -/
theorem freeze_round_closes_all_or_nothing :
    let genesis : View := ⟨Chain.start .empty (some .genesis), .empty, none⟩
    let round : Round := ⟨1, ⟨1, 0⟩, true, []⟩
    let block := Assembler.fresh 0 .zero round 0
    let session := (Session.fresh ⟨.default, .idle, none⟩ genesis
      (Depot.empty .log (.memory none))).run Depot.platform [.startRound round]
    Assembler.start .default .genesis = .ok (⟨.default, .idle, none⟩, genesis) ∧
      (Depot.empty .log (.memory none)).KeepsInMemory ∧
      session.assembler.phase = .assembling block ∧
      ((∃ closed next after,
        (session.assembler.endRound round).run Depot.platform session.world =
            (.ok (.ok (some closed), next), after) ∧
          closed.number = block.number ∧
          ClosedInFull Depot.load session.world closed next after) ∨
      ∃ error next after,
        (session.assembler.endRound round).run Depot.platform session.world =
            (.ok (.error error, next), after) ∧
          CallFailed Depot.platform block session.world error ∧
          LeftAlone Depot.load session.assembler session.world error next after) := by
  intro genesis round block session
  have started : Assembler.start .default .genesis =
      .ok (⟨.default, .idle, none⟩, genesis) := rfl
  have memory : (Depot.empty .log (.memory none)).KeepsInMemory := ⟨none, rfl⟩
  have phase : session.assembler.phase = .assembling block := rfl
  exact ⟨started, memory, phase,
    closing_is_all_or_nothing Depot.stores_safely started memory [.startRound round] phase
      (.inr rfl)⟩

end
end ProvenBlocks
