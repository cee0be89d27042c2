import ProvenBlocks.Proofs.Calm
import ProvenBlocks.Proofs.Retention
import ProvenBlocks.Proofs.Stages
import ProvenBlocks.Proofs.Writers

/-!
Starting again from what was saved. A checkpoint is valid if it has no more hashes than blocks. The
hashes grow by one with every block until the window is full, so every checkpoint is valid if the
chain starts with no more hashes than blocks. It starts with one too many if it resumes after a
hash of its own that is added to a checkpoint with a hash for every block.
-/

namespace ProvenBlocks

/-! ### Hashes at the start -/

namespace Chain

/-- How many hashes are retained. -/
theorem extended_size (chain : Chain) (number : UInt64) (hash : Digest) :
    (chain.extended number hash).history.entries.length =
      min chain.history.capacity (chain.history.entries.length + 1) := by
  have length := (chain.history.holds_entries.push hash).length
  rw [Window.push_capacity, List.length_append, List.length_singleton] at length
  exact length

end Chain

namespace Checkpoint

/-- No more hashes than blocks. -/
theorem validate_iff {checkpoint : Checkpoint} {number : UInt64}
    (last : checkpoint.blockNumber = some number) (more : number.toNat < 2 ^ 64 - 1) :
    checkpoint.validate = .ok () ↔ checkpoint.blockHashes.length ≤ number.toNat + 1 := by
  have blocks : (number + 1).toNat = number.toNat + 1 := UnprovenRun.to_nat_succ (by omega)
  simp only [validate, last, checked_succ_ok more, blocks]
  split
  · rename_i exceeds
    constructor
    · intro valid
      contradiction
    · omega
  · rename_i enough
    constructor
    · omega
    · exact fun _ => rfl

end Checkpoint

namespace Startup

/-- The chain starts with one hash more than blocks if the startup overfills it, as far as the
window goes. -/
theorem start_size_overfilled {startup : Startup} (overfills : startup.Overfills)
    (short : (Chain.start startup.checkpoint startup.anchor).height < hashHistorySize) :
    (Chain.start startup.checkpoint startup.anchor).history.entries.length =
      (Chain.start startup.checkpoint startup.anchor).height + 1 := by
  have size : (Chain.start startup.checkpoint startup.anchor).history.entries.length =
      min hashHistorySize startup.hashes.length := startup.recalls_start.size
  rw [height_start] at short ⊢
  rw [size, hashes_overfilled overfills, Nat.min_eq_right short]

/-- Otherwise the chain starts with no more hashes than blocks. -/
theorem start_size {startup : Startup} (valid : startup.checkpoint.validate = .ok ())
    (fits : ¬ startup.Overfills) :
    (Chain.start startup.checkpoint startup.anchor).history.entries.length ≤
      (Chain.start startup.checkpoint startup.anchor).height := by
  have size : (Chain.start startup.checkpoint startup.anchor).history.entries.length =
      min hashHistorySize startup.hashes.length := startup.recalls_start.size
  rw [size, height_start]
  exact Nat.le_trans (Nat.min_le_right _ _) (hashes_fit valid fits)

end Startup

/-! ### Hashes of a session -/

section

variable {σ : Type} {platform : Platform σ} {assembler next : Assembler}
  {world after : World (Journal σ)} {events history : List Event}

theorem saves_of_proofs {signature : Bytes} {blocks : List (ResolvedBlock WriterId)}
    {written : List FinalizedBlock × Option StreamError} {calls : List Call}
    (noted : ProofsNoted signature blocks written calls) : saves calls = [] := by
  induction noted with
  | nil => rfl
  | failed head tail inductive_hypothesis =>
      rw [saves_append, inductive_hypothesis]
      cases head <;> rfl
  | written head tail inductive_hypothesis =>
      rw [saves_append, inductive_hypothesis]
      cases head
      rfl

theorem saves_of_abandoned {number : UInt64} {header : Item} {fault : IoFault}
    {before after : Journal σ}
    (left : Assembler.Abandoned platform.journaled number header before fault after) :
    saves after.calls = saves before.calls := by
  have unsaved {calls : List Call} (extended : before.Extends platform calls after)
      (nothing : saves calls = []) : saves after.calls = saves before.calls := by
    rw [extended.calls, saves_append, nothing, List.append_nil]
  cases left with
  | notCreated fault state create => exact unsaved (.of_create create) rfl
  | notOpened writer fault created opened create start =>
      exact unsaved ((Journal.Extends.of_create create).trans
        ((Journal.Extends.of_open_block start).trans (.of_release opened writer))) rfl
  | noHeader writer fault created opened written create start write =>
      exact unsaved ((Journal.Extends.of_create create).trans
        ((Journal.Extends.of_open_block start).trans
          ((Journal.Extends.of_write_item write).trans (.of_release written writer)))) rfl

/-- What a move does to the closed blocks, the checkpoints that were saved and what readers see of
either: nothing, or it closes one more block. -/
inductive MayClose (assembler : Assembler) (world : World (Journal σ)) (events : List Event)
    (after : World (Journal σ)) : Prop
  | kept (chain : after.view.chain = world.view.chain)
      (history : after.view.outputs.history = world.view.outputs.history)
      (seed : after.view.outputs.seed = world.view.outputs.seed)
      (saved : saves after.platform.calls = saves world.platform.calls)
      (untold : ∀ production : Production,
        (events.foldl Production.observe production).closed = production.closed)
  | closed (round : Round) (opened block : OpenBlock)
      (phase : assembler.phase = .assembling opened)
      (added : Assembler.addRound opened = .ok block)
      (shown : after.view = world.view.close block)
      (saved : saves after.platform.calls =
        saves world.platform.calls ++ [block.checkpoint world.view])
      (told : events = [.roundEnded round (.ok (some (block.closed world.view round)))])

theorem may_close_of_moved (moved : Moved platform.journaled assembler world events next after) :
    MayClose assembler world events after := by
  have unsaved {calls : List Call} {reached : Journal σ}
      (extended : world.platform.Extends platform calls reached) (nothing : saves calls = []) :
      saves reached.calls = saves world.platform.calls := by
    rw [extended.calls, saves_append, nothing, List.append_nil]
  have untold {event : Event} (quiet : event.IsQuiet) (production : Production) :
      ([event].foldl Production.observe production).closed = production.closed := by
    rw [Production.observe_one_quiet quiet]
  cases moved with
  | quiet events quiet =>
      exact .kept rfl rfl rfl rfl fun _ => by rw [Production.observe_quiet quiet]
  | opened round number previousHash writer created opened written phase prior next create start
      write =>
      have extended := ((Journal.Extends.of_create create).trans (.of_open_block start)).trans
        (.of_write_item write)
      exact .kept rfl rfl rfl (unsaved extended rfl) fun _ => rfl
  | abandoned round number previousHash fault state event quiet phase prior next left =>
      exact .kept rfl rfl rfl (saves_of_abandoned left) (untold quiet)
  | written block item state phase unmanaged call =>
      exact .kept (View.add_chain _ _) (View.add_history _ _) (View.add_seed _ _)
        (unsaved (.of_write_item call) rfl) fun _ => rfl
  | notWritten block item fault state event quiet phase call kind =>
      have extended := (Journal.Extends.of_write_item call).trans (.of_release state block.writer)
      exact .kept rfl rfl rfl (unsaved extended rfl) (untold quiet)
  | counted round block counted phase added early => exact .kept rfl rfl rfl rfl fun _ => rfl
  | notSaved round block counted error written saved event quiet phase added due write save =>
      have extended := (Journal.Extends.of_write_item write).trans
        ((Journal.Extends.of_save save).trans (.of_release saved counted.writer))
      exact .kept (View.add_chain _ _) (View.add_history _ _) (View.add_seed _ _)
        (unsaved extended rfl) (untold quiet)
  | closed round block counted written saved phase added due write save =>
      have extended := (Journal.Extends.of_write_item write).trans (.of_save save)
      refine .closed round block counted phase added rfl ?_ rfl
      rw [World.close_platform, World.setPlatform_platform, extended.calls, saves_append]
      rfl
  | signed signature answer after applied =>
      obtain ⟨written, calls, noted, _, extended, view, _⟩ := journaled_applied applied
      exact .kept (by rw [view]) (by rw [view]) (by rw [view])
        (unsaved extended (saves_of_proofs noted)) fun _ => rfl

/-- The checkpoint was saved when the block was closed, so many blocks after the first view. -/
structure Checkpoint.SavedFor (checkpoint : Checkpoint) (first : View) (closed : ClosedBlock)
    (blocks : Nat) : Prop where
  number : checkpoint.blockNumber = some closed.number
  hash : checkpoint.lastHash = some closed.hash
  height : closed.number.toNat + 1 = first.chain.height + blocks
  retained : checkpoint.blockHashes.length =
    min hashHistorySize (first.chain.history.entries.length + blocks)

/-- The hashes of a chain grow with its blocks up to the size of the window, and so do those of the
checkpoints saved on the way. -/
structure Session.Grows (first : View) (session : Session (Journal σ)) : Prop where
  coherent : session.assembler.Coherent session.world
  capacity : session.world.view.chain.history.capacity = hashHistorySize
  grown : ∃ blocks, session.world.view.chain.height = first.chain.height + blocks ∧
    session.world.view.chain.history.entries.length =
      min hashHistorySize (first.chain.history.entries.length + blocks)
  saved : ∀ checkpoint ∈ saves session.world.platform.calls, ∃ closed items blocks,
    (closed, items) ∈ session.production.closed ∧ checkpoint.SavedFor first closed blocks

namespace Session

variable {first : View} {session : Session (Journal σ)}

theorem grows_fresh {settings : StreamSettings} {startup : Startup}
    (started : Assembler.start settings startup = .ok (assembler, first)) (state : σ) :
    (Session.fresh assembler first ⟨[], state⟩).Grows first := by
  have idle := Assembler.start_idle started
  have bounded := first.chain.history.bounded
  obtain ⟨_, _, _, view⟩ := Assembler.start_ok started
  have capacity : first.chain.history.capacity = hashHistorySize := by
    rw [view]
    exact Chain.start_capacity _ _
  constructor
  · exact Assembler.coherent_fresh idle first _
  · exact capacity
  · refine ⟨0, rfl, ?_⟩
    rw [capacity] at bounded
    exact (Nat.min_eq_right bounded).symm
  · intro checkpoint member
    cases member

theorem Grows.step (grows : session.Grows first) (operation : Operation) :
    (session.step platform.journaled operation).Grows first := by
  obtain ⟨events, moved, history⟩ := step_moves platform.journaled grows.coherent operation
  have coherent := Assembler.coherent_of_moved grows.coherent moved
  have observed := production_of_history history
  have earlier : ∀ checkpoint ∈ saves session.world.platform.calls, ∃ closed items blocks,
      (closed, items) ∈ (session.step platform.journaled operation).production.closed ∧
        checkpoint.SavedFor first closed blocks := by
    intro checkpoint member
    obtain ⟨closed, items, blocks, produced, savedFor⟩ := grows.saved checkpoint member
    rw [observed]
    exact ⟨closed, items, blocks, closed_of_observe events produced, savedFor⟩
  cases may_close_of_moved moved with
  | kept chain history seed saved untold =>
      refine ⟨coherent, ?_, ?_, ?_⟩
      · rw [chain]
        exact grows.capacity
      · rw [chain]
        exact grows.grown
      · rw [saved]
        exact earlier
  | closed round opened block phase added shown saved told =>
      have follows := Assembler.follows_of_add_round added (grows.coherent.follows opened phase)
      obtain ⟨blocks, height, size⟩ := grows.grown
      have next := Chain.next_number_height follows.next
      have reached : block.number.toNat + 1 = first.chain.height + (blocks + 1) := by omega
      have retained : (session.world.view.close block).chain.history.entries.length =
          min hashHistorySize (first.chain.history.entries.length + (blocks + 1)) := by
        have length := session.world.view.chain.extended_size block.number
          (block.hash session.world.view)
        rw [grows.capacity, size] at length
        exact length.trans (by omega)
      refine ⟨coherent, ?_, ⟨blocks + 1, ?_, ?_⟩, ?_⟩
      · rw [shown]
        exact (Window.push_capacity _ _).trans grows.capacity
      · rw [shown]
        exact reached
      · rw [shown]
        exact retained
      · rw [saved]
        intro checkpoint member
        rcases List.mem_append.mp member with before | now
        · exact earlier checkpoint before
        · rw [List.mem_singleton.mp now]
          refine ⟨block.closed session.world.view round, session.production.taken, blocks + 1, ?_,
            ?_⟩
          · rw [observed, told]
            exact List.mem_append_right _ (List.mem_singleton_self _)
          · exact ⟨rfl, Window.push_newest _ _, reached, retained⟩

theorem Grows.run (grows : session.Grows first) (operations : List Operation) :
    (session.run platform.journaled operations).Grows first := by
  induction operations generalizing session with
  | nil => exact grows
  | cons operation later inductive_hypothesis =>
      exact inductive_hypothesis (grows.step operation)

end Session

/-! ### What can be loaded again -/

variable {settings : StreamSettings} {startup : Startup} {first : View}

theorem Checkpoint.SavedFor.valid_iff {checkpoint : Checkpoint} {closed : ClosedBlock}
    {blocks : Nat} (savedFor : checkpoint.SavedFor first closed blocks)
    (started : Assembler.start settings startup = .ok (assembler, first))
    (more : closed.number.toNat < 2 ^ 64 - 1) :
    checkpoint.validate = .ok () ↔
      (startup.Overfills → hashHistorySize ≤ closed.number.toNat + 1) := by
  have height := savedFor.height
  obtain ⟨_, valid, _, rfl⟩ := Assembler.start_ok started
  rw [validate_iff savedFor.number more, savedFor.retained]
  by_cases overfills : startup.Overfills
  · have size := Startup.start_size_overfilled overfills
    simp only [overfills, true_imp_iff]
    dsimp only at height ⊢
    omega
  · have size := Startup.start_size valid overfills
    simp only [overfills, false_imp_iff, iff_true]
    dsimp only at height ⊢
    omega

/-- A valid checkpoint leads on to the block after the one that it was saved for. -/
theorem Checkpoint.SavedFor.starts_again {checkpoint : Checkpoint} {closed : ClosedBlock}
    {blocks : Nat} (savedFor : checkpoint.SavedFor first closed blocks)
    (valid : checkpoint.validate = .ok ()) (more : closed.number.toNat < 2 ^ 64 - 1)
    {other : StreamSettings} (allowed : other.validate = .ok ()) :
    ∃ next restored, Assembler.start other (.ofStored (some checkpoint)) = .ok (next, restored) ∧
      restored.chain.nextNumber = .ok (closed.number + 1) ∧
      restored.chain.prior = some closed.hash := by
  refine ⟨⟨other, .idle, checkpoint.blockTime⟩, checkpoint.view, ?_, ?_, ?_⟩
  · rw [start_stored, Option.getD_some, allowed, valid]
    rfl
  · simp only [Chain.nextNumber, view_chain_lastNumber, savedFor.number]
    exact checked_succ_ok more
  · rw [view_chain_prior, savedFor.hash]
    rfl

/-- Every saved checkpoint is that of a closed block. As long as there is a number left, it is valid
exactly if the startup does not overfill the chain or the window is full by then; and a stream that
starts from a valid one goes on with the next number and the hash of the block. -/
theorem saved_checkpoints_start_again
    (started : Assembler.start settings startup = .ok (assembler, first)) (platform : Platform σ)
    (state : σ) (operations : List Operation) :
    let session := (Session.fresh assembler first ⟨[], state⟩).run platform.journaled operations
    ∀ checkpoint ∈ saves session.world.platform.calls, ∃ closed items,
      (closed, items) ∈ session.production.closed ∧
      checkpoint.blockNumber = some closed.number ∧ checkpoint.lastHash = some closed.hash ∧
      (closed.number.toNat < 2 ^ 64 - 1 →
        (checkpoint.validate = .ok () ↔
          (startup.Overfills → hashHistorySize ≤ closed.number.toNat + 1)) ∧
        ∀ other : StreamSettings, other.validate = .ok () → checkpoint.validate = .ok () →
          ∃ next restored,
            Assembler.start other (.ofStored (some checkpoint)) = .ok (next, restored) ∧
            restored.chain.nextNumber = .ok (closed.number + 1) ∧
            restored.chain.prior = some closed.hash) := by
  intro session checkpoint member
  have grows : session.Grows first := (Session.grows_fresh started state).run operations
  obtain ⟨closed, items, blocks, produced, savedFor⟩ := grows.saved checkpoint member
  refine ⟨closed, items, produced, savedFor.number, savedFor.hash, fun more => ⟨?_, ?_⟩⟩
  · exact savedFor.valid_iff started more
  · intro other allowed valid
    exact savedFor.starts_again valid more allowed

/-- One block after the start, whose checkpoint is loaded again. -/
theorem first_checkpoint_starts_again :
    let genesis : View := ⟨Chain.start .empty (some .genesis), .empty, none⟩
    let round : Round := ⟨1, ⟨1, 0⟩, false, []⟩
    let session := (Session.fresh ⟨.default, .idle, none⟩ genesis
      ⟨[], Depot.empty .log (.memory none)⟩).run Depot.platform.journaled
        [.startRound round, .endRound round]
    Assembler.start .default .genesis = .ok (⟨.default, .idle, none⟩, genesis) ∧
      (saves session.world.platform.calls).length = 1 ∧
      ∀ checkpoint ∈ saves session.world.platform.calls, ∃ closed items,
        (closed, items) ∈ session.production.closed ∧
        checkpoint.blockNumber = some closed.number ∧ checkpoint.lastHash = some closed.hash ∧
        (closed.number.toNat < 2 ^ 64 - 1 →
          (checkpoint.validate = .ok () ↔
            (Startup.genesis.Overfills → hashHistorySize ≤ closed.number.toNat + 1)) ∧
          ∀ other : StreamSettings, other.validate = .ok () → checkpoint.validate = .ok () →
            ∃ next restored,
              Assembler.start other (.ofStored (some checkpoint)) = .ok (next, restored) ∧
              restored.chain.nextNumber = .ok (closed.number + 1) ∧
              restored.chain.prior = some closed.hash) := by
  intro genesis round
  have started : Assembler.start .default .genesis =
      .ok (⟨.default, .idle, none⟩, genesis) := rfl
  exact ⟨started, by decide +kernel,
    saved_checkpoints_start_again started Depot.platform (Depot.empty .log (.memory none))
      [.startRound round, .endRound round]⟩

/-- The stream resumes after another hash than the newest one of a full checkpoint, closes a block,
and saves a checkpoint that it refuses to start from. -/
theorem resumed_checkpoint_refused :
    let repeated : UInt8 → Digest := fun first =>
      ⟨(List.replicate 6 [first, 0, 0, 0, 0, 0, 0, 0]).flatten, rfl⟩
    let startup : Startup := .resume ⟨some 0, some ⟨1, 0⟩, [], [repeated 1]⟩ (repeated 2)
    let round : Round := ⟨1, ⟨2, 0⟩, false, []⟩
    ∃ assembler first, Assembler.start .default startup = .ok (assembler, first) ∧
      startup.Overfills ∧
      (saves ((Session.fresh assembler first ⟨[], Depot.empty .log (.memory none)⟩).run
        Depot.platform.journaled
          [.startRound round, .endRound round]).world.platform.calls).map
        (fun checkpoint => (checkpoint.blockNumber, checkpoint.validate)) =
          [(some 1, .error (.stream (.inconsistentState
            "3 trailing block hashes for 2 blocks")))] := by
  intro repeated startup round
  refine ⟨⟨.default, .idle, some ⟨1, 0⟩⟩,
    ⟨Chain.start startup.checkpoint startup.anchor, .ofHistory [], none⟩, rfl, ?_, ?_⟩
  · exact ⟨0, repeated 2, rfl, rfl, by decide, rfl⟩
  · decide +kernel

end
end ProvenBlocks
