import ProvenBlocks.Proofs.Stages
import ProvenBlocks.Proofs.Writers
import ProvenBlocks.Station

/-!
The journal of a session accounts for every block at every moment: for the open one, for those
that wait for a proof, and for every writer that was closed. Each step of a session keeps this,
whatever the platform answers.
-/

namespace ProvenBlocks

section

variable {σ : Type} {platform : Platform σ} {created : σ → Nat}

/-- The writers in use: those of the unproven blocks and that of the open block. -/
def inUse {τ : Type} (assembler : Assembler) (world : World τ) : List Nat :=
  Station.writersOf world.unproven ++ Station.openWriters assembler

/-- What journal and history of a session say of its blocks. -/
structure Accounted (created : σ → Nat) (assembler : Assembler) (world : World (Journal σ))
    (history : List Event) : Prop where
  assembling : ∀ block, assembler.phase = .assembling block → ∃ header,
    Assembling world.platform.calls (.ofHistory history) world.view block header
  settled : Settled world.platform.calls history world.unproven.blocks
  tidy : Tidy (created world.platform.state) world.platform.calls (inUse assembler world)
  saved : (saves world.platform.calls).map Checkpoint.blockNumber =
    (Production.ofHistory history).numbers.map some

variable {assembler : Assembler} {world : World (Journal σ)} {history : List Event}

theorem open_writers_of_assembling {block : OpenBlock}
    (phase : assembler.phase = .assembling block) :
    Station.openWriters assembler = [block.writer] := by
  simp [Station.openWriters, phase]

theorem open_writers_of_ended (ended : ∀ block, assembler.phase ≠ .assembling block) :
    Station.openWriters assembler = [] := by
  unfold Station.openWriters
  split
  · exact absurd ‹_› (ended _)
  · rfl
  · rfl
  · rfl

theorem open_writers_of_idle (phase : assembler.phase = .idle) :
    Station.openWriters assembler = [] :=
  open_writers_of_ended (by simp [phase])

/-- The writer of the open block is in use and none of an unproven block. -/
theorem Accounted.open_apart (accounted : Accounted created assembler world history)
    {block : OpenBlock} (phase : assembler.phase = .assembling block) :
    (∀ other ∈ world.unproven.blocks, other.writer ≠ block.writer) ∧
      ¬ IsClosed world.platform.calls block.writer ∧
      block.writer < created world.platform.state := by
  have tidy := accounted.tidy
  have inside : block.writer ∈ inUse assembler world := by
    simp [inUse, open_writers_of_assembling phase]
  refine ⟨?_, tidy.unclosed _ inside, tidy.counted _ inside⟩
  intro other member
  have distinct := (List.nodup_append.mp tidy.distinct).2.2
  exact distinct _ (List.mem_map_of_mem member) _ (by simp [open_writers_of_assembling phase])

/-- Calls about the writer of an open block that do not close it; the block may be lost. -/
theorem Accounted.extend_open (counts : platform.CountsWriters created)
    (accounted : Accounted created assembler world history)
    {block : OpenBlock} (phase : assembler.phase = .assembling block) (next : Assembler)
    (after : World (Journal σ)) {calls : List Call}
    (extended : world.platform.Extends platform calls after.platform)
    (others : ∀ other, other ≠ block.writer → Untouched calls other)
    (unclosed : ∀ other, ¬ IsClosed calls other)
    (unproven : after.unproven = world.unproven)
    (writers : (Station.openWriters next).Sublist [block.writer]) (events : List Event) :
    Settled after.platform.calls (history ++ events) after.unproven.blocks ∧
      Tidy (created after.platform.state) after.platform.calls (inUse next after) := by
  obtain ⟨apart, open_, counted⟩ := accounted.open_apart phase
  rw [extended.calls, unproven]
  constructor
  · apply accounted.settled.extend events _ _ unclosed
    · intro other member
      exact others _ (apart other member)
    · intro other closed
      apply others other
      intro same
      rw [same] at closed
      exact open_ closed
  · apply accounted.tidy.extend _ (extended.counted created counts) (fun writer _ => unclosed writer)
    · intro writer above
      have below := Nat.lt_of_lt_of_le counted
          (Nat.le_trans (extended.counted created counts) above)
      exact others writer (Nat.ne_of_gt below)
    · simp only [inUse, unproven, open_writers_of_assembling phase]
      exact writers.append_left _

/-- Calls about writers that are created meanwhile. -/
theorem Accounted.settled_beside (accounted : Accounted created assembler world history)
    {calls : List Call}
    (old : ∀ writer : Nat, writer < created world.platform.state → Untouched calls writer)
    (unclosed : ∀ writer, ¬ IsClosed calls writer) (events : List Event) :
    Settled (world.platform.calls ++ calls) (history ++ events) world.unproven.blocks := by
  apply accounted.settled.extend events _ _ unclosed
  · intro block member
    apply old
    apply accounted.tidy.counted
    exact List.mem_append_left _ (List.mem_map_of_mem member)
  · intro writer closed
    apply old
    exact accounted.tidy.closed_lt closed

theorem journaled_abandoned (counts : platform.CountsWriters created) {number : UInt64}
    {header : Item} {fault : IoFault} {before after : Journal σ}
    (left : Assembler.Abandoned platform.journaled number header before fault after) :
    ∃ calls, before.Extends platform calls after ∧ saves calls = [] ∧
      (∀ writer, ¬ IsClosed calls writer) ∧
      ∀ writer : Nat, writer < created before.state ∨ created after.state ≤ writer →
        Untouched calls writer := by
  cases left with
  | notCreated fault state create =>
      refine ⟨_, .of_create create, rfl, by simp [IsClosed], ?_⟩
      intro writer outside
      simp [Untouched, Call.writer?]
  | notOpened writer fault created opened create start =>
      have bounds := counts.journaled_create create
      have started := Journal.Extends.of_open_block start
      have released : opened.Extends platform [.release writer] _ := .of_release opened writer
      have later := (started.trans released).counted _ counts
      refine ⟨_, (Journal.Extends.of_create create).trans (started.trans released), rfl,
        by simp [IsClosed], ?_⟩
      intro other outside
      have different : other ≠ writer := by omega
      simp [Untouched, Call.writer?, different.symm]
  | noHeader writer fault created opened written create start write =>
      have bounds := counts.journaled_create create
      have started := Journal.Extends.of_open_block start
      have wrote := Journal.Extends.of_write_item write
      have released : written.Extends platform [.release writer] _ := .of_release written writer
      have later := ((started.trans wrote).trans released).counted _ counts
      refine ⟨_, (Journal.Extends.of_create create).trans
        ((started.trans wrote).trans released), rfl, by simp [IsClosed], ?_⟩
      intro other outside
      have different : other ≠ writer := by omega
      simp [Untouched, Call.writer?, different.symm]

theorem accounted_of_opened (counts : platform.CountsWriters created)
    (accounted : Accounted created assembler world history) {round : Round} {number : UInt64}
    {previousHash : Digest} {writer : Nat} {between opened written : Journal σ}
    (phase : assembler.phase = .idle) (nothing : (Production.ofHistory history).taken = [])
    (create : platform.journaled.create world.platform = (.ok writer, between))
    (start : platform.journaled.openBlock writer number between = (.ok (), opened))
    (write : platform.journaled.writeItem writer
      (Assembler.header assembler.settings number previousHash round.time).encode opened =
        (.ok (), written)) :
    Accounted created (assembler.withBlock (Assembler.fresh number previousHash round writer))
      ((world.setPlatform written).showOpenBlock number)
      (history ++ [.roundStarted round (.ok ())]) := by
  have bounds := counts.journaled_create create
  have started := Journal.Extends.of_open_block start
  have wrote := Journal.Extends.of_write_item write
  have later := (started.trans wrote).counted created counts
  have extended := (Journal.Extends.of_create create).trans (started.trans wrote)
  refine ⟨?_, ?_, ?_, ?_⟩
  · intro block open_
    cases open_
    refine ⟨⟨number, round.time, previousHash, assembler.settings.softwareVersion, .sha384⟩, ?_⟩
    simp only [World.showOpenBlock, World.setPlatform, Production.of_history_append,
      extended.calls]
    exact assembling_of_opened nothing (accounted.tidy.untouched writer bounds.1)
  · simp only [World.showOpenBlock_platform, World.setPlatform_platform, extended.calls]
    apply accounted.settled_beside _ (by simp [IsClosed])
    intro other below
    have different : other ≠ writer := by omega
    simp [Untouched, Call.writer?, different.symm]
  · have used : inUse assembler world = Station.writersOf world.unproven := by
      simp [inUse, open_writers_of_idle phase]
    have tidy := accounted.tidy
    rw [used] at tidy
    simp only [World.showOpenBlock_platform, World.setPlatform_platform, extended.calls]
    have below : writer < created written.state := by omega
    apply tidy.extend_new bounds.1 below (by simp [IsClosed])
    intro other above
    have different : other ≠ writer := by omega
    simp [Untouched, Call.writer?, different.symm]
  · simp only [World.showOpenBlock_platform, World.setPlatform_platform, extended.calls,
      saves_append, List.map_append, accounted.saved, Production.of_history_append]
    exact List.append_nil _

theorem accounted_of_written (counts : platform.CountsWriters created)
    (accounted : Accounted created assembler world history) {block : OpenBlock} {item : Item}
    {state : Journal σ} (phase : assembler.phase = .assembling block)
    (unmanaged : item.isManaged = false)
    (call : platform.journaled.writeItem block.writer item.encode world.platform =
      (.ok (), state)) :
    Accounted created (assembler.withBlock (block.add item))
      ((world.setPlatform state).addItem item)
      (history ++ [.itemWritten item (.ok ())]) := by
  have extended := Journal.Extends.of_write_item call
  obtain ⟨settled, tidy⟩ :=
    accounted.extend_open counts phase (assembler.withBlock (block.add item))
      ((world.setPlatform state).addItem item) extended
      (fun other different => by simp [Untouched, Call.writer?, different.symm])
      (by simp [IsClosed]) rfl (by simp [Station.openWriters, Assembler.withBlock])
      [.itemWritten item (.ok ())]
  refine ⟨?_, settled, tidy, ?_⟩
  · intro added open_
    cases open_
    obtain ⟨header, assembling⟩ := accounted.assembling block phase
    refine ⟨header, ?_⟩
    rw [Production.of_history_append]
    simp only [World.addItem_platform, World.addItem_view, World.setPlatform_platform,
      World.setPlatform_view, extended.calls]
    exact assembling_of_written assembling unmanaged
  · simp only [World.addItem_platform, World.setPlatform_platform, extended.calls, saves_append,
      List.map_append, accounted.saved, Production.of_history_append]
    exact List.append_nil _

/-- Events of no block leave everything accounted for. -/
theorem Accounted.tell (accounted : Accounted created assembler world history)
    {events : List Event}
    (unseen : events.foldl Production.observe (.ofHistory history) = .ofHistory history) :
    Accounted created assembler world (history ++ events) := by
  have same : Production.ofHistory (history ++ events) = .ofHistory history := by
    rw [Production.of_history_append, unseen]
  have settled := accounted.settled.extend events (fun _ _ => by simp [Untouched])
    (fun _ _ => by simp [Untouched]) (by simp [IsClosed] : ∀ writer, ¬ IsClosed [] writer)
  rw [List.append_nil] at settled
  refine ⟨?_, settled, accounted.tidy, ?_⟩
  · rw [same]
    exact accounted.assembling
  · rw [same]
    exact accounted.saved

theorem accounted_of_counted (accounted : Accounted created assembler world history)
    {block counted : OpenBlock} (phase : assembler.phase = .assembling block)
    (added : Assembler.addRound block = .ok counted) :
    Accounted created (assembler.withBlock counted) world history := by
  have same : counted.writer = block.writer := by rw [(Assembler.add_round_ok added).1]
  obtain ⟨header, assembling⟩ := accounted.assembling block phase
  refine ⟨fun open_ phase => ?_, accounted.settled, ?_, accounted.saved⟩
  · cases phase
    exact ⟨header, assembling_of_counted assembling added⟩
  · have used : inUse (assembler.withBlock counted) world = inUse assembler world := by
      rw [inUse, inUse, open_writers_of_assembling phase,
        open_writers_of_assembling (Assembler.withBlock_phase assembler counted), same]
    rw [used]
    exact accounted.tidy

theorem accounted_of_abandoned (counts : platform.CountsWriters created)
    (accounted : Accounted created assembler world history) {number : UInt64} {header : Item}
    {fault : IoFault} {state : Journal σ} {event : Event} (quiet : event.IsQuiet)
    (phase : assembler.phase = .idle) (error : StreamError)
    (left : Assembler.Abandoned platform.journaled number header world.platform fault state) :
    Accounted created (assembler.halted error) (world.setPlatform state).hideOpenBlock
      (history ++ [event]) := by
  obtain ⟨calls, extended, unsaved, unclosed, outside⟩ := journaled_abandoned counts left
  refine ⟨(fun block open_ => by cases open_), ?_, ?_, ?_⟩
  · simp only [World.hideOpenBlock_platform, World.setPlatform_platform, extended.calls]
    exact accounted.settled_beside (fun writer below => outside writer (.inl below)) unclosed _
  · have tidy := accounted.tidy
    simp only [inUse, open_writers_of_idle phase] at tidy
    simp only [World.hideOpenBlock_platform, World.setPlatform_platform, extended.calls]
    exact tidy.extend (List.Sublist.refl _) (extended.counted created counts)
      (fun writer _ => unclosed writer)
      (fun writer above => outside writer (.inr above))
  · simp only [World.hideOpenBlock_platform, World.setPlatform_platform, extended.calls,
      saves_append, unsaved, List.append_nil, accounted.saved, Production.of_history_append,
      Production.observe_one_quiet quiet]

/-- The open block is lost. -/
theorem accounted_of_halted (counts : platform.CountsWriters created)
    (accounted : Accounted created assembler world history)
    {block : OpenBlock} (phase : assembler.phase = .assembling block) (error : StreamError)
    {after : World (Journal σ)} {event : Event} (quiet : event.IsQuiet) {calls : List Call}
    (extended : world.platform.Extends platform calls after.platform)
    (others : ∀ other, other ≠ block.writer → Untouched calls other)
    (unclosed : ∀ other, ¬ IsClosed calls other) (unsaved : saves calls = [])
    (unproven : after.unproven = world.unproven) :
    Accounted created (assembler.halted error) after (history ++ [event]) := by
  obtain ⟨settled, tidy⟩ :=
    accounted.extend_open counts phase (assembler.halted error) after extended
      others unclosed unproven (List.nil_sublist _) [event]
  refine ⟨(fun block open_ => by cases open_), settled, tidy, ?_⟩
  rw [extended.calls, saves_append, unsaved, List.append_nil, accounted.saved,
    Production.of_history_append, Production.observe_one_quiet quiet]

theorem accounted_of_closed (counts : platform.CountsWriters created)
    (accounted : Accounted created assembler world history) {round : Round}
    {block counted : OpenBlock} {written saved : Journal σ}
    (phase : assembler.phase = .assembling block)
    (added : Assembler.addRound block = .ok counted)
    (write : platform.journaled.writeItem counted.writer
      (Assembler.boundary round (counted.checkpoint world.view)).encode world.platform =
        (.ok (), written))
    (save : platform.journaled.save (counted.checkpoint world.view) written = (.ok (), saved)) :
    Accounted created
      ⟨assembler.settings, Assembler.phaseAfter (counted.closed world.view round),
        some counted.time⟩
      ((world.setPlatform saved).close counted)
      (history ++ [.roundEnded round (.ok (some (counted.closed world.view round)))]) := by
  have extended :=
    (Journal.Extends.of_write_item write).trans (Journal.Extends.of_save save)
  obtain ⟨header, assembling⟩ := accounted.assembling block phase
  have assembling := assembling_of_counted assembling added
  have same : counted.writer = block.writer := by rw [(Assembler.add_round_ok added).1]
  have ended : Station.openWriters ⟨assembler.settings,
      Assembler.phaseAfter (counted.closed world.view round), some counted.time⟩ = [] :=
    open_writers_of_ended (Assembler.phase_after_ne_assembling _)
  obtain ⟨settled, tidy⟩ := accounted.extend_open counts phase assembler (world.setPlatform saved)
    extended (fun other different => by simp [Untouched, Call.writer?, same, different.symm])
    (by simp [IsClosed]) rfl (by simp [open_writers_of_assembling phase])
    [.roundEnded round (.ok (some (counted.closed world.view round)))]
  refine ⟨?_, ⟨?_, settled.proven⟩, ?_, ?_⟩
  · exact fun open_ assembling => absurd assembling (Assembler.phase_after_ne_assembling _ _)
  · intro pending member
    rcases List.mem_append.mp member with earlier | newest
    · exact settled.pending pending earlier
    · rw [List.mem_singleton.mp newest]
      refine ⟨.ofOpen (.ofHistory history) world.view counted round header, ?_⟩
      simp only [World.close_platform, World.setPlatform_platform, World.setPlatform_view,
        extended.calls, Production.of_history_append]
      exact awaits_of_closed round assembling
  · -- the writer moves from the open block to the newest unproven one
    have moved : inUse assembler (world.setPlatform saved) =
        inUse ⟨assembler.settings, Assembler.phaseAfter (counted.closed world.view round),
          some counted.time⟩ ((world.setPlatform saved).close counted) := by
      simp [inUse, ended, open_writers_of_assembling phase, Station.writersOf, same]
    rw [← moved]
    exact tidy
  · simp only [World.close_platform, World.setPlatform_platform, extended.calls, saves_append,
      List.map_append, accounted.saved, Production.of_history_append]
    simp [Production.observe, Production.numbers]

theorem in_use_split {τ : Type} (assembler : Assembler) (world : World τ) (signed : Digest) :
    inUse assembler world =
      ((world.unproven.resolve signed).1.map fun resolved => resolved.block.writer) ++
        ((world.unproven.resolve signed).2.blocks.map UnprovenBlock.writer
          ++ Station.openWriters assembler) := by
  rw [inUse, Station.writersOf, ← UnprovenRun.resolved_blocks world.unproven signed,
    List.map_append, List.map_map, List.append_assoc]
  rfl

/-- Writers that are used by a block that was not resolved, or by the open block. -/
theorem Accounted.writers_split (accounted : Accounted created assembler world history)
    (signed : Digest) :
    ((world.unproven.resolve signed).1.map fun resolved => resolved.block.writer).Nodup ∧
      ((world.unproven.resolve signed).2.blocks.map UnprovenBlock.writer
        ++ Station.openWriters assembler).Sublist (inUse assembler world) ∧
      ∀ writer ∈ (world.unproven.resolve signed).2.blocks.map UnprovenBlock.writer
          ++ Station.openWriters assembler,
        ∀ resolved ∈ (world.unproven.resolve signed).1, resolved.block.writer ≠ writer := by
  have split := in_use_split assembler world signed
  have distinct := accounted.tidy.distinct
  rw [split] at distinct ⊢
  obtain ⟨before, _, apart⟩ := List.nodup_append.mp distinct
  refine ⟨before, List.sublist_append_right _ _, ?_⟩
  intro writer kept resolved member
  exact apart _ (List.mem_map.mpr ⟨resolved, member, rfl⟩) writer kept

theorem resolved_unproven (run : UnprovenRun WriterId) (signed : Digest)
    {resolved : ResolvedBlock WriterId} (member : resolved ∈ (run.resolve signed).1) :
    resolved.block ∈ run.blocks := by
  rw [← UnprovenRun.resolved_blocks run signed]
  exact List.mem_append_left _ (List.mem_map_of_mem member)

/-- The writer of an unproven block is in use and was not closed. -/
theorem Accounted.unproven_writer (accounted : Accounted created assembler world history)
    {block : UnprovenBlock WriterId} (member : block ∈ world.unproven.blocks) :
    (block.writer : Nat) < created world.platform.state ∧
      ¬ IsClosed world.platform.calls block.writer := by
  have used : block.writer ∈ inUse assembler world :=
    List.mem_append_left _ (List.mem_map_of_mem member)
  exact ⟨accounted.tidy.counted _ used, accounted.tidy.unclosed _ used⟩

/-- Blocks that were not resolved still wait, and what was closed now holds its proof. -/
theorem settled_of_signed (accounted : Accounted created assembler world history)
    (chained : world.unproven.blocks.IsChain UnprovenRun.LeadsTo) {signature : Signature}
    {answer : Except StreamError (List FinalizedBlock)} {calls : List Call}
    (proofs : ProofCalls signature.content (world.unproven.resolve signature.message).1 calls)
    (untouched : ∀ block ∈ (world.unproven.resolve signature.message).2.blocks,
      Untouched calls block.writer) :
    Settled (world.platform.calls ++ calls)
      (history ++ [.signed signature (world.unproven.resolve signature.message).1 answer])
      (world.unproven.resolve signature.message).2.blocks where
  pending := by
    intro block member
    have earlier := (UnprovenRun.resolve_suffix world.unproven signature.message).subset member
    obtain ⟨sealedBlock, awaits⟩ := accounted.settled.pending block earlier
    exact ⟨sealedBlock, awaits.extend (untouched block member)⟩
  proven := by
    intro writer closed
    rcases is_closed_append.mp closed with earlier | now
    · obtain ⟨block, proven⟩ := accounted.settled.proven writer earlier
      refine ⟨block, proven.extend (proofs.others writer fun resolved member same => ?_)⟩
      rw [← same] at earlier
      exact (accounted.unproven_writer (resolved_unproven _ _ member)).2 earlier
    · obtain ⟨resolved, member, rfl, proof⟩ := proofs.proof writer now
      obtain ⟨sealedBlock, awaits⟩ :=
        accounted.settled.pending resolved.block (resolved_unproven _ _ member)
      exact ⟨_, proven_of_awaits awaits (UnprovenRun.resolve_leads chained member) proof
        (proofs.unopened _)⟩

theorem accounted_of_signed (counts : platform.CountsWriters created)
    (accounted : Accounted created assembler world history)
    (chained : world.unproven.blocks.IsChain UnprovenRun.LeadsTo) {signature : Signature}
    {answer : Except StreamError (List FinalizedBlock)} {after : World (Journal σ)}
    (applied : Ledger.Applied platform.journaled signature.message signature.content world
      (.ok answer, after)) :
    Accounted created assembler after
      (history ++ [.signed signature (world.unproven.resolve signature.message).1 answer]) := by
  obtain ⟨distinct, sublist, apart⟩ := accounted.writers_split signature.message
  obtain ⟨written, calls, noted, _, extended, view, unproven⟩ := journaled_applied applied
  have proofs := proof_calls_of_all_noted distinct noted
  have untouched : ∀ writer ∈ inUse assembler after, Untouched calls writer := by
    intro writer used
    rw [inUse, unproven] at used
    exact proofs.others writer (apart writer used)
  constructor
  · intro block phase
    obtain ⟨header, assembling⟩ := accounted.assembling block phase
    refine ⟨header, ?_⟩
    rw [extended.calls, view, Production.of_history_append]
    exact assembling.extend
      (untouched block.writer (by simp [inUse, open_writers_of_assembling phase]))
  · rw [extended.calls, unproven]
    apply settled_of_signed accounted chained proofs
    intro block member
    apply untouched
    rw [inUse, unproven]
    exact List.mem_append_left _ (List.mem_map_of_mem member)
  · rw [extended.calls]
    apply accounted.tidy.extend _ (extended.counted created counts)
      (fun writer used => not_closed_untouched (untouched writer used))
    · intro writer above
      apply proofs.others writer
      intro resolved member same
      have counted := (accounted.unproven_writer (resolved_unproven _ _ member)).1
      rw [same] at counted
      exact Nat.not_le_of_gt counted (Nat.le_trans (extended.counted created counts) above)
    · rw [inUse, unproven]
      exact sublist
  · rw [extended.calls, saves_append, proofs.unsaved, List.append_nil, accounted.saved,
      Production.of_history_append]
    rfl

theorem accounted_of_moved {next : Assembler} {after : World (Journal σ)} {events : List Event}
    (counts : platform.CountsWriters created)
    (accounted : Accounted created assembler world history)
    (chained : world.unproven.blocks.IsChain UnprovenRun.LeadsTo)
    (idle : assembler.phase = .idle → (Production.ofHistory history).taken = [])
    (moved : Moved platform.journaled assembler world events next after) :
    Accounted created next after (history ++ events) := by
  cases moved with
  | quiet events quiet => exact accounted.tell (Production.observe_quiet quiet)
  | opened round number previousHash writer created opened written phase prior next create start
      write => exact accounted_of_opened counts accounted phase (idle phase) create start write
  | abandoned round number previousHash fault state event quiet phase prior next left =>
      exact accounted_of_abandoned counts accounted quiet phase _ left
  | written block item state phase unmanaged call =>
      exact accounted_of_written counts accounted phase unmanaged call
  | notWritten block item fault state event quiet phase call kind =>
      exact accounted_of_halted counts accounted phase _ quiet
        ((Journal.Extends.of_write_item call).trans (.of_release _ _))
          (fun other different => by simp [Untouched, Call.writer?, different.symm])
        (by simp [IsClosed]) rfl rfl
  | counted round block counted phase added early =>
      exact accounted_of_counted (accounted.tell rfl) phase added
  | notSaved round block counted error written saved event quiet phase added due write save =>
      have same : counted.writer = block.writer := by rw [(Assembler.add_round_ok added).1]
      exact accounted_of_halted counts accounted phase _ quiet
        (((Journal.Extends.of_write_item write).trans (.of_save save)).trans
          (.of_release _ _))
        (fun other different => by simp [Untouched, Call.writer?, same, different.symm])
        (by simp [IsClosed]) rfl rfl
  | closed round block counted written saved phase added due write save =>
      exact accounted_of_closed counts accounted phase added write save
  | signed signature answer after applied =>
      exact accounted_of_signed counts accounted chained applied

end

end ProvenBlocks
