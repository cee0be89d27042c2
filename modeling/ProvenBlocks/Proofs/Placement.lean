import ProvenBlocks.Proofs.Attribution
import ProvenBlocks.Proofs.BlockFiles
import ProvenBlocks.Proofs.SelfContained

/-!
Where the blocks of a session are. As long as no call fails, a number is opened only for the next
block, and every closed block waits in the run or has its writer closed. So what is in the
directories of a depot is known at every moment of a session.
-/

namespace ProvenBlocks

theorem opened_numbers_nil {calls : List Call} (unopened : ∀ writer, openings calls writer = []) :
    openedNumbers calls = [] := by
  apply List.eq_nil_iff_forall_not_mem.mpr
  intro number member
  obtain ⟨⟨_, writer⟩, opened, rfl⟩ := List.mem_map.mp member
  have inside := mem_openings.mpr opened
  rw [unopened writer] at inside
  cases inside

/-! ### Blocks of a session -/

section

variable {σ : Type} {platform : Platform σ} {created : σ → Nat} {assembler next : Assembler}
  {world after : World (Journal σ)} {history events : List Event}

/-- A block whose writer was closed. -/
def IsFinished (calls : List Call) (number : UInt64) : Prop :=
  ∃ writer, IsClosed calls writer ∧ number ∈ openings calls writer

theorem IsFinished.append {calls : List Call} {number : UInt64} (finished : IsFinished calls number)
    (more : List Call) : IsFinished (calls ++ more) number := by
  obtain ⟨writer, closed, opened⟩ := finished
  refine ⟨writer, is_closed_append.mpr (.inl closed), ?_⟩
  rw [openings_append]
  exact List.mem_append_left _ opened

/-- A block that waits for its proof. -/
def IsPending {ω : Type} (run : UnprovenRun ω) (number : UInt64) : Prop :=
  ∃ block ∈ run.blocks, block.number = number

/-- The numbers opened so far are those of the closed blocks and of the open one, and each closed
block is pending or finished. -/
structure Placed (assembler : Assembler) (world : World (Journal σ)) (history : List Event) :
    Prop where
  opened : openedNumbers world.platform.calls = (Production.ofHistory history).numbers
    ++ assembler.openBlock?.toList.map OpenBlock.number
  placed : ∀ number ∈ (Production.ofHistory history).numbers,
    IsPending world.unproven number ∨ IsFinished world.platform.calls number

/-- Calls that open no block, while neither the run nor the open block changes. -/
theorem Placed.quiet (placed : Placed assembler world history) {calls : List Call}
    (extended : after.platform.calls = world.platform.calls ++ calls)
    (unopened : openedNumbers calls = []) (unproven : after.unproven = world.unproven)
    (numbers : (Production.ofHistory (history ++ events)).numbers =
      (Production.ofHistory history).numbers)
    (same : next.openBlock?.map OpenBlock.number = assembler.openBlock?.map OpenBlock.number) :
    Placed next after (history ++ events) := by
  have still : next.openBlock?.toList.map OpenBlock.number =
      assembler.openBlock?.toList.map OpenBlock.number := by
    rw [← Option.toList_map, ← Option.toList_map, same]
  constructor
  · rw [extended, opened_numbers_append, unopened, List.append_nil, numbers, still]
    exact placed.opened
  · rw [numbers, extended, unproven]
    intro number member
    exact (placed.placed number member).imp_right fun finished => finished.append calls

theorem placed_of_opened (placed : Placed assembler world history) {round : Round}
    {number : UInt64} {previousHash : Digest} {writer : WriterId}
    {between opened written : Journal σ} (phase : assembler.phase = .idle)
    (create : platform.journaled.create world.platform = (.ok writer, between))
    (start : platform.journaled.openBlock writer number between = (.ok (), opened))
    (write : platform.journaled.writeItem writer
      (Assembler.header assembler.settings number previousHash round.time).encode opened =
        (.ok (), written)) :
    Placed (assembler.withBlock (Assembler.fresh number previousHash round writer))
      ((world.setPlatform written).showOpenBlock number)
      (history ++ [.roundStarted round (.ok ())]) := by
  have extended := (Journal.Extends.of_create create).trans
    ((Journal.Extends.of_open_block start).trans (.of_write_item write))
  have before := placed.opened
  rw [Assembler.open_block_idle phase] at before
  have numbers : (Production.ofHistory (history ++ [.roundStarted round (.ok ())])).numbers =
      (Production.ofHistory history).numbers := by
    rw [Production.of_history_append]
    rfl
  constructor
  · simp only [World.showOpenBlock_platform, World.setPlatform_platform, extended.calls]
    rw [opened_numbers_append, before, numbers, Option.toList_none, List.map_nil, List.append_nil]
    rfl
  · simp only [World.showOpenBlock_platform, World.setPlatform_platform, extended.calls]
    rw [numbers]
    intro earlier member
    exact (placed.placed earlier member).imp_right fun finished => finished.append _

/-- The open block becomes the newest pending one. -/
theorem placed_of_closed (placed : Placed assembler world history) {round : Round}
    {block counted : OpenBlock} {written saved : Journal σ}
    (phase : assembler.phase = .assembling block)
    (added : Assembler.addRound block = .ok counted)
    (write : platform.journaled.writeItem counted.writer
      (Assembler.boundary round (counted.checkpoint world.view)).encode world.platform =
        (.ok (), written))
    (save : platform.journaled.save (counted.checkpoint world.view) written = (.ok (), saved)) :
    Placed
      ⟨assembler.settings, Assembler.phaseAfter (counted.closed world.view round),
        some counted.time⟩
      ((world.setPlatform saved).close counted)
      (history ++ [.roundEnded round (.ok (some (counted.closed world.view round)))]) := by
  have extended := (Journal.Extends.of_write_item write).trans (.of_save save)
  have before := placed.opened
  rw [Assembler.open_block_assembling phase] at before
  have number : counted.number = block.number := by rw [(Assembler.add_round_ok added).1]
  have ended : Assembler.openBlock? ⟨assembler.settings,
      Assembler.phaseAfter (counted.closed world.view round), some counted.time⟩ = none := by
    simp only [Assembler.openBlock?]
    split
    · exact absurd ‹_› (Assembler.phase_after_ne_assembling _ _)
    all_goals rfl
  have numbers : (Production.ofHistory
      (history ++ [.roundEnded round (.ok (some (counted.closed world.view round)))])).numbers =
      (Production.ofHistory history).numbers ++ [block.number] := by
    rw [Production.of_history_append]
    simp [Production.observe, Production.numbers, number]
  constructor
  · simp only [World.close_platform, World.setPlatform_platform, extended.calls]
    rw [opened_numbers_append, before, numbers, ended]
    simp [openedNumbers, openers, Call.opener?]
  · simp only [World.close_platform, World.setPlatform_platform, extended.calls]
    rw [numbers]
    intro earlier member
    rcases List.mem_append.mp member with former | newest
    · refine (placed.placed earlier former).imp ?_ fun finished => finished.append _
      rintro ⟨pending, among, same⟩
      exact ⟨pending, List.mem_append_left _ among, same⟩
    · rw [List.mem_singleton.mp newest, ← number]
      exact .inl ⟨counted.unproven world.view, List.mem_append_right _ (by simp), rfl⟩

/-- A signature finishes the blocks that it resolves. -/
theorem placed_of_signed (placed : Placed assembler world history)
    (accounted : Accounted created assembler world history) {signature : Signature}
    {answer : Except StreamError (List FinalizedBlock)}
    (applied : Ledger.Applied platform.journaled signature.message signature.content world
      (.ok answer, after)) (faultless : after.platform.Faultless) :
    Placed assembler after
      (history ++ [.signed signature (world.unproven.resolve signature.message).1 answer]) := by
  obtain ⟨written, calls, noted, _, extended, _, unproven⟩ := journaled_applied applied
  obtain ⟨distinct, _, _⟩ := accounted.writers_split signature.message
  have proofs := proof_calls_of_all_noted distinct noted
  obtain ⟨_, called⟩ := noted_without_failure noted fun call member =>
    faultless.no_failure extended member
  have numbers : (Production.ofHistory (history ++
      [.signed signature (world.unproven.resolve signature.message).1 answer])).numbers =
      (Production.ofHistory history).numbers := by
    rw [Production.of_history_append]
    rfl
  constructor
  · rw [extended.calls, opened_numbers_append, opened_numbers_nil proofs.unopened,
      List.append_nil, numbers]
    exact placed.opened
  · rw [numbers, extended.calls, unproven]
    intro number member
    rcases placed.placed number member with ⟨block, pending, rfl⟩ | finished
    · rw [← UnprovenRun.resolved_blocks world.unproven signature.message] at pending
      rcases List.mem_append.mp pending with resolved | later
      · obtain ⟨found, among, rfl⟩ := List.mem_map.mp resolved
        obtain ⟨sealedBlock, awaits⟩ :=
          accounted.settled.pending found.block (resolved_unproven _ _ among)
        refine .inr ⟨found.block.writer, is_closed_append.mpr (.inr ⟨.ok (), ?_⟩), ?_⟩
        · rw [called]
          exact List.mem_flatMap.mpr ⟨found, among, by simp [proofCalls]⟩
        · rw [openings_append, awaits.kept.opened, awaits.number]
          exact List.mem_append_left _ (List.mem_singleton_self _)
      · exact .inl ⟨block, later, rfl⟩
    · exact .inr (finished.append calls)

theorem placed_of_moved (placed : Placed assembler world history)
    (accounted : Accounted created assembler world history)
    (moved : Moved platform.journaled assembler world events next after)
    (faultless : after.platform.Faultless) : Placed next after (history ++ events) := by
  cases moved with
  | quiet events quiet =>
      refine placed.quiet (List.append_nil _).symm rfl rfl ?_ rfl
      rw [Production.of_history_append, Production.observe_quiet quiet]
  | opened round number previousHash writer created opened written phase prior next create start
      write => exact placed_of_opened placed phase create start write
  | abandoned round number previousHash fault state event quiet phase prior next left =>
      exact absurd left faultless.not_abandoned
  | written block item state phase unmanaged call =>
      refine placed.quiet (Journal.Extends.of_write_item call).calls rfl rfl ?_ ?_
      · rw [Production.of_history_append]
        rfl
      · rw [Assembler.open_block_assembling phase,
          Assembler.open_block_assembling (Assembler.withBlock_phase assembler (block.add item)),
          Option.map_some, Option.map_some, OpenBlock.add_number]
  | notWritten block item fault state event quiet phase call kind =>
      have extended := (Journal.Extends.of_write_item call).trans (.of_release state block.writer)
      cases faultless.no_failure extended (List.mem_cons_self ..)
  | counted round block counted phase added early =>
      refine placed.quiet (List.append_nil _).symm rfl rfl ?_ ?_
      · rw [Production.of_history_append]
        rfl
      · rw [Assembler.open_block_assembling phase, (Assembler.add_round_ok added).1]
        rfl
  | notSaved round block counted error written saved event quiet phase added due write save =>
      have extended := (Journal.Extends.of_save save).trans (.of_release saved counted.writer)
      cases faultless.no_failure extended (List.mem_cons_self ..)
  | closed round block counted written saved phase added due write save =>
      exact placed_of_closed placed phase added write save
  | signed signature answer after applied =>
      exact placed_of_signed placed accounted applied faultless

/-- Every number is opened once, and after all that the chain had at the start. -/
theorem Placed.opened_ascends (placed : Placed assembler world history) {earlier : List UInt64}
    (coherent : assembler.Coherent world)
    (ascends : Ascends (earlier ++ (Production.ofHistory history).numbers)
      world.view.chain.lastNumber) :
    (earlier ++ openedNumbers world.platform.calls).Pairwise (· < ·) := by
  rw [placed.opened, ← List.append_assoc]
  cases open_ : assembler.openBlock? with
  | none =>
      rw [Option.toList_none, List.map_nil, List.append_nil]
      exact ascends.ascending
  | some block =>
      have phase : assembler.phase = .assembling block := by
        unfold Assembler.openBlock? at open_
        split at open_ <;> cases open_
        assumption
      exact (ascends.append (coherent.follows block phase).next).ascending

end

/-! ### Sessions on a depot -/

theorem Session.step_calls {σ : Type} (platform : Platform σ) (session : Session (Journal σ))
    (operation : Operation) : session.world.platform.calls <+:
      (session.step platform.journaled operation).world.platform.calls := by
  obtain ⟨_, script, ran⟩ := step_ran platform.journaled session operation
  rw [ran]
  exact script.run_calls platform session.world

theorem Session.run_calls {σ : Type} (platform : Platform σ) (session : Session (Journal σ))
    (operations : List Operation) : session.world.platform.calls <+:
      (session.run platform.journaled operations).world.platform.calls := by
  induction operations generalizing session with
  | nil => exact List.prefix_rfl
  | cons operation later inductive_hypothesis =>
      exact (session.step_calls platform operation).trans (inductive_hypothesis _)

/-- A session on a depot, after sessions that closed blocks with earlier numbers. -/
structure Session.Stored (directory statePath : String) (start : FileTree) (earlier : List UInt64)
    (session : Session (Journal Depot)) : Prop where
  sound : session.Sound Depot.created
  placed : Placed session.assembler session.world session.history
  ascends : Ascends (earlier ++ session.production.numbers) session.world.view.chain.lastNumber
  filed : session.world.platform.Filed directory statePath start

section

variable {directory statePath : String} {start : FileTree} {earlier : List UInt64}
  {session : Session (Journal Depot)}

theorem Session.Stored.opened (stored : session.Stored directory statePath start earlier) :
    (earlier ++ openedNumbers session.world.platform.calls).Pairwise (· < ·) :=
  stored.placed.opened_ascends stored.sound.coherent stored.ascends

theorem Session.Stored.opened_once (stored : session.Stored directory statePath start earlier) :
    (openedNumbers session.world.platform.calls).Nodup :=
  (List.pairwise_append.mp stored.opened).2.1.imp UInt64.ne_of_lt

theorem Session.Stored.step (apart : BlockFile.IsElsewhere statePath)
    (stored : session.Stored directory statePath start earlier) (operation : Operation)
    (faultless :
      (session.step Depot.platform.journaled operation).world.platform.Faultless) :
    (session.step Depot.platform.journaled operation).Stored directory statePath start
      earlier := by
  have coherent := stored.sound.coherent
  have moves := Session.step_moves Depot.platform.journaled coherent operation
  have sound := sound_of_moved Depot.counts_writers stored.sound moves
  obtain ⟨events, moved, history⟩ := moves
  have placed : Placed (session.step Depot.platform.journaled operation).assembler
      (session.step Depot.platform.journaled operation).world
      (session.step Depot.platform.journaled operation).history := by
    rw [history]
    exact placed_of_moved stored.placed stored.sound.accounted moved faultless
  have ascends : Ascends
      (earlier ++ (session.step Depot.platform.journaled operation).production.numbers)
      (session.step Depot.platform.journaled operation).world.view.chain.lastNumber := by
    rw [Session.production, history]
    exact ascends_of_moved earlier coherent stored.ascends moved
  have opened := placed.opened_ascends sound.coherent ascends
  refine ⟨sound, placed, ascends, ?_⟩
  obtain ⟨_, script, ran⟩ := step_ran Depot.platform.journaled session operation
  rw [ran] at faultless opened ⊢
  apply script.run_filed apart stored.filed faultless
  exact (List.pairwise_append.mp opened).2.1.imp UInt64.ne_of_lt

theorem Session.Stored.run (apart : BlockFile.IsElsewhere statePath)
    (stored : session.Stored directory statePath start earlier) (operations : List Operation)
    (faultless :
      (session.run Depot.platform.journaled operations).world.platform.Faultless) :
    (session.run Depot.platform.journaled operations).Stored directory statePath start
      earlier := by
  induction operations generalizing session with
  | nil => exact stored
  | cons operation later inductive_hypothesis =>
      have before : (session.step Depot.platform.journaled operation).world.platform.Faultless :=
        fun call member => faultless call ((Session.run_calls _ _ later).mem member)
      exact inductive_hypothesis (stored.step apart operation before) faultless

end

end ProvenBlocks
