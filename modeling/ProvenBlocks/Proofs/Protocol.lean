import ProvenBlocks.Proofs.Conduct
import ProvenBlocks.Proofs.Queries
import ProvenBlocks.Proofs.SelfContained

/-!
The protocol of writers in whole sessions. While a writer is open it belongs to the open block or to
one unproven block. Only a block whose checkpoint could not be saved leaves a writer to nobody on
which no call has failed.
-/

namespace ProvenBlocks

/-- What the calls of a session say of its writers. -/
structure Conducted {σ : Type} (first : Nat) (assembler : Assembler) (world : World (Journal σ))
    (production : Production) : Prop where
  created : ∀ writer ∈ inUse assembler world, writer ∈ createdWriters world.platform.calls
  smooth : ∀ writer ∈ inUse assembler world, Smooth world.platform.calls writer
  ended : ∀ writer ∈ createdWriters world.platform.calls, writer ∉ inUse assembler world →
    Ended world.platform.calls production assembler writer
  opened : (attempts world.platform.calls).map Prod.fst = createdWriters world.platform.calls
  consecutive : (attempts world.platform.calls).map (fun attempt => attempt.2.toNat) =
    List.range' first (attempts world.platform.calls).length
  next : assembler.isHalted = false → first + (attempts world.platform.calls).length =
    world.view.chain.height + (Station.openWriters assembler).length

section

variable {σ : Type} {platform : Platform σ} {created : σ → Nat} {first : Nat}
  {assembler next : Assembler} {world after : World (Journal σ)} {production later : Production}
  {calls more : List Call}

/-- Calls that create and open nothing, on writers in use. -/
theorem Conducted.extend (conducted : Conducted first assembler world production)
    (extended : after.platform.calls = world.platform.calls ++ more)
    (uncreated : createdWriters more = []) (unopened : attempts more = [])
    (used : ∀ writer ∈ inUse next after, writer ∈ inUse assembler world ∧
      Smooth (world.platform.calls ++ more) writer)
    (others : ∀ writer, writer ∉ inUse assembler world → Untouched more writer)
    (left : ∀ writer ∈ inUse assembler world, writer ∉ inUse next after →
      Ended (world.platform.calls ++ more) later next writer)
    (closed : ∀ entry ∈ production.closed, entry ∈ later.closed)
    (halted : assembler.isHalted = true → next.isHalted = true ∧ later = production)
    (height : next.isHalted = false → assembler.isHalted = false ∧
      after.view.chain.height + (Station.openWriters next).length =
        world.view.chain.height + (Station.openWriters assembler).length) :
    Conducted first next after later := by
  have sameCreated : createdWriters after.platform.calls = createdWriters world.platform.calls := by
    rw [extended, created_writers_append, uncreated, List.append_nil]
  have sameAttempts : attempts after.platform.calls = attempts world.platform.calls := by
    rw [extended, attempts_append, unopened, List.append_nil]
  constructor
  · intro writer member
    rw [sameCreated]
    exact conducted.created writer (used writer member).1
  · intro writer member
    rw [extended]
    exact (used writer member).2
  · intro writer member notUsed
    rw [sameCreated] at member
    rw [extended]
    by_cases before : writer ∈ inUse assembler world
    · exact left writer before notUsed
    · exact (conducted.ended writer member before).extend (others writer before) closed halted
  · rw [sameAttempts, sameCreated]
    exact conducted.opened
  · rw [sameAttempts]
    exact conducted.consecutive
  · intro running
    obtain ⟨before, same⟩ := height running
    rw [sameAttempts, same]
    exact conducted.next before

theorem absurd_of_halted (running : assembler.isHalted = false) {conclusion : Prop}
    (halted : assembler.isHalted = true) : conclusion :=
  absurd (running.symm.trans halted) Bool.false_ne_true

/-- No writer comes or goes. -/
theorem Conducted.extend_kept (conducted : Conducted first assembler world production)
    (running : assembler.isHalted = false) (kept : inUse next after = inUse assembler world)
    (extended : after.platform.calls = world.platform.calls ++ more)
    (uncreated : createdWriters more = []) (unopened : attempts more = [])
    (smooth : ∀ writer ∈ inUse assembler world, Smooth (world.platform.calls ++ more) writer)
    (others : ∀ writer, writer ∉ inUse assembler world → Untouched more writer)
    (closed : ∀ entry ∈ production.closed, entry ∈ later.closed)
    (height : next.isHalted = false → after.view.chain.height + (Station.openWriters next).length =
      world.view.chain.height + (Station.openWriters assembler).length) :
    Conducted first next after later := by
  refine conducted.extend extended uncreated unopened ?_ others ?_ closed
    (absurd_of_halted running) (fun onward => ⟨running, height onward⟩)
  · intro writer member
    rw [kept] at member
    exact ⟨member, smooth writer member⟩
  · intro writer before notUsed
    exact absurd (kept ▸ before) notUsed

end

/-! ### Steps -/

section

variable {σ : Type} {platform : Platform σ} {created : σ → Nat} {first : Nat}
  {assembler : Assembler} {world after : World (Journal σ)} {history : List Event}
  {block counted : OpenBlock}

theorem in_use_of_assembling (phase : assembler.phase = .assembling block) :
    inUse assembler world = Station.writersOf world.unproven ++ [block.writer] := by
  rw [inUse, open_writers_of_assembling phase]

theorem not_halted_of_assembling (phase : assembler.phase = .assembling block) :
    assembler.isHalted = false := by
  rw [Assembler.isHalted, phase]

theorem conducted_of_counted {production : Production}
    (conducted : Conducted first assembler world production)
    (phase : assembler.phase = .assembling block)
    (added : Assembler.addRound block = .ok counted) :
    Conducted first (assembler.withBlock counted) world production := by
  have same : counted.writer = block.writer := by rw [(Assembler.add_round_ok added).1]
  have used : inUse (assembler.withBlock counted) world = inUse assembler world := by
    rw [in_use_of_assembling phase,
      in_use_of_assembling (Assembler.withBlock_phase assembler counted), same]
  refine conducted.extend_kept (not_halted_of_assembling phase) used (List.append_nil _).symm rfl
    rfl ?_ ?_ (fun _ => id) ?_
  · rw [List.append_nil]
    exact conducted.smooth
  · exact fun writer _ call member => by cases member
  · intro _
    rw [open_writers_of_assembling phase, open_writers_of_assembling
      (Assembler.withBlock_phase assembler counted)]
    rfl

theorem conducted_of_written {production : Production}
    (conducted : Conducted first assembler world production) {item : Item} {state : Journal σ}
    (phase : assembler.phase = .assembling block)
    (call : platform.journaled.writeItem block.writer item.encode world.platform =
      (.ok (), state)) :
    Conducted first (assembler.withBlock (block.add item))
      ((world.setPlatform state).addItem item)
      (production.observe (.itemWritten item (.ok ()))) := by
  have used : inUse (assembler.withBlock (block.add item))
      ((world.setPlatform state).addItem item) = inUse assembler world := by
    rw [in_use_of_assembling phase,
      in_use_of_assembling (Assembler.withBlock_phase assembler (block.add item)),
      OpenBlock.add_writer]
    rfl
  refine conducted.extend_kept (not_halted_of_assembling phase) used
    (Journal.Extends.of_write_item call).calls rfl rfl ?_ ?_ (fun _ => id) ?_
  · exact fun writer member => (conducted.smooth writer member).written _ _
  · intro writer unused
    have apart : block.writer ≠ writer := by
      rintro rfl
      exact unused (by simp [in_use_of_assembling phase])
    simp [Untouched, Call.writer?, apart]
  · intro _
    rw [open_writers_of_assembling phase, open_writers_of_assembling
      (Assembler.withBlock_phase assembler (block.add item))]
    simp

/-- The open block is lost with its writer. -/
theorem conducted_of_lost (accounted : Accounted created assembler world history)
    (conducted : Conducted first assembler world (.ofHistory history))
    (phase : assembler.phase = .assembling block) {error : StreamError} {more : List Call}
    (extended : after.platform.calls = world.platform.calls ++ more)
    (uncreated : createdWriters more = []) (unopened : attempts more = [])
    (others : ∀ other, other ≠ block.writer → Untouched more other)
    (unproven : after.unproven = world.unproven)
    (unclosed : block.number ∉ (Production.ofHistory history).numbers)
    (conduct : ∃ protocol : Protocol, protocol.number = block.number ∧
      Conduct (world.platform.calls ++ more) (Production.ofHistory history).taken block.writer
        protocol)
    (ending : Fails (world.platform.calls ++ more) block.writer ∨
      IsUnsaved (world.platform.calls ++ more) block.writer) :
    Conducted first (assembler.halted error) after (.ofHistory history) := by
  have left : inUse (assembler.halted error) after = Station.writersOf world.unproven := by
    rw [inUse, unproven]
    exact List.append_nil _
  have before : inUse assembler world = Station.writersOf world.unproven ++ [block.writer] :=
    in_use_of_assembling phase
  refine conducted.extend extended uncreated unopened ?_ ?_ ?_ (fun _ => id)
    (absurd_of_halted (not_halted_of_assembling phase))
    (fun running => absurd_of_halted running rfl)
  · intro writer member
    rw [left] at member
    have used : writer ∈ inUse assembler world := before ▸ List.mem_append_left _ member
    obtain ⟨pending, inRun, rfl⟩ := List.mem_map.mp member
    exact ⟨used, (conducted.smooth _ used).beside
      (others _ ((accounted.open_apart phase).1 pending inRun))⟩
  · intro writer unused
    apply others
    rintro rfl
    exact unused (by simp [before])
  · intro writer used notUsed
    rw [left] at notUsed
    rw [before, List.mem_append, List.mem_singleton] at used
    obtain rfl := used.resolve_left notUsed
    obtain ⟨protocol, number, conduct⟩ := conduct
    exact .lost protocol conduct (number ▸ unclosed) ending rfl

theorem conducted_of_closed (coherent : assembler.Coherent world) {production : Production}
    (conducted : Conducted first assembler world production) {round : Round}
    {written saved : Journal σ} (phase : assembler.phase = .assembling block)
    (added : Assembler.addRound block = .ok counted)
    (write : platform.journaled.writeItem counted.writer
      (Assembler.boundary round (counted.checkpoint world.view)).encode world.platform =
        (.ok (), written))
    (save : platform.journaled.save (counted.checkpoint world.view) written = (.ok (), saved)) :
    Conducted first
      ⟨assembler.settings, Assembler.phaseAfter (counted.closed world.view round),
        some counted.time⟩
      ((world.setPlatform saved).close counted)
      (production.observe (.roundEnded round (.ok (some (counted.closed world.view round))))) := by
  have same : counted.writer = block.writer := by rw [(Assembler.add_round_ok added).1]
  have ended : Station.openWriters ⟨assembler.settings,
      Assembler.phaseAfter (counted.closed world.view round), some counted.time⟩ = [] :=
    open_writers_of_ended (Assembler.phase_after_ne_assembling _)
  -- the writer moves from the open block to the newest unproven one
  have used : inUse ⟨assembler.settings, Assembler.phaseAfter (counted.closed world.view round),
      some counted.time⟩ ((world.setPlatform saved).close counted) = inUse assembler world := by
    simp [inUse, ended, open_writers_of_assembling phase, Station.writersOf, same]
  have number := Chain.next_number_height
    (Assembler.follows_of_add_round added (coherent.follows block phase)).next
  have extended :=
    ((Journal.Extends.of_write_item write).trans (Journal.Extends.of_save save)).calls
  refine conducted.extend_kept (not_halted_of_assembling phase) used extended rfl rfl ?_ ?_ ?_ ?_
  · intro writer member
    rw [← List.append_assoc]
    exact ((conducted.smooth writer member).written _ _).beside (by simp [Untouched, Call.writer?])
  · intro writer unused
    have apart : counted.writer ≠ writer := by
      rintro rfl
      exact unused (by simp [in_use_of_assembling phase, same])
    simp [Untouched, Call.writer?, apart]
  · exact fun entry member => List.mem_append_left _ member
  · intro _
    rw [ended, open_writers_of_assembling phase, ← number]
    simp [Chain.height]

theorem conducted_of_signed (accounted : Accounted created assembler world history)
    (conducted : Conducted first assembler world (.ofHistory history)) {signature : Signature}
    {answer : Except StreamError (List FinalizedBlock)}
    (applied : Ledger.Applied platform.journaled signature.message signature.content world
      (.ok answer, after)) :
    Conducted first assembler after (.ofHistory history) := by
  obtain ⟨distinct, sublist, apart⟩ := accounted.writers_split signature.message
  obtain ⟨written, calls, noted, _, extended, view, unproven⟩ := journaled_applied applied
  have proofs := proof_calls_of_all_noted distinct noted
  have before := in_use_split assembler world signature.message
  have left : inUse assembler after = (world.unproven.resolve signature.message).2.blocks.map
      UnprovenBlock.writer ++ Station.openWriters assembler := by
    rw [inUse, unproven]
    rfl
  refine conducted.extend extended.calls noted.creates_nothing.1 noted.creates_nothing.2 ?_ ?_ ?_
    (fun _ => id) (fun halted => ⟨halted, rfl⟩) (fun running => ⟨running, by rw [view]⟩)
  · intro writer member
    rw [left] at member
    have used := sublist.subset member
    exact ⟨used, (conducted.smooth writer used).beside (proofs.others writer (apart writer member))⟩
  · intro writer unused
    apply proofs.others
    rintro resolved member rfl
    rw [before] at unused
    exact unused (List.mem_append_left _ (List.mem_map_of_mem member))
  · intro writer used notUsed
    rw [left] at notUsed
    rw [before, List.mem_append] at used
    obtain ⟨resolved, member, rfl⟩ := List.mem_map.mp (used.resolve_right notUsed)
    obtain ⟨sealedBlock, awaits⟩ :=
      accounted.settled.pending resolved.block (resolved_unproven _ _ member)
    have smooth := conducted.smooth resolved.block.writer
      (before ▸ List.mem_append_left _ (List.mem_map_of_mem member))
    exact awaits.ended smooth (noted.proven distinct resolved member)

theorem created_lt {count : Nat} {calls : List Call} {live : List Nat}
    (tidy : Tidy count calls live) {writer : Nat} (member : writer ∈ createdWriters calls) :
    writer < count := by
  obtain ⟨call, inCalls, made⟩ := List.mem_filterMap.mp member
  by_contra above
  apply tidy.untouched writer (Nat.not_lt.mp above) call inCalls
  unfold Call.created? at made
  split at made
  · cases made
    rfl
  · cases made

/-- A new writer is created and opened, and more calls follow. -/
def openingOf (writer : WriterId) (number : UInt64) (answer : Except IoFault Unit)
    (more : List Call) : List Call :=
  .create (.ok writer) :: .openBlock writer number answer :: more

theorem created_writers_opening {calls more : List Call} {writer : WriterId} {number : UInt64}
    {answer : Except IoFault Unit} (uncreated : createdWriters more = []) :
    createdWriters (calls ++ openingOf writer number answer more) =
      createdWriters calls ++ [writer] := by
  rw [created_writers_append]
  exact congrArg _ (congrArg (writer :: ·) uncreated)

theorem attempts_opening {calls more : List Call} {writer : WriterId} {number : UInt64}
    {answer : Except IoFault Unit} (unopened : attempts more = []) :
    attempts (calls ++ openingOf writer number answer more) =
      attempts calls ++ [(writer, number)] := by
  rw [attempts_append]
  exact congrArg _ (congrArg ((writer, number) :: ·) unopened)

theorem opening_untouched {more : List Call} {writer other : WriterId} {number : UInt64}
    {answer : Except IoFault Unit} (apart : other ≠ writer) (untouched : Untouched more other) :
    Untouched (openingOf writer number answer more) other := by
  intro call member
  rcases List.mem_cons.mp member with rfl | member
  · simpa [Call.writer?] using apart.symm
  · rcases List.mem_cons.mp member with rfl | member
    · simpa [Call.writer?] using apart.symm
    · exact untouched call member

/-- A new writer is opened, for good or not. -/
theorem Conducted.extend_new {production : Production} {next : Assembler} {writer : Nat}
    {number : UInt64} {answer : Except IoFault Unit} {more : List Call} {count : Nat}
    (conducted : Conducted first assembler world production)
    (tidy : Tidy count world.platform.calls (inUse assembler world)) (new : count ≤ writer)
    (phase : assembler.phase = .idle) (height : number.toNat = world.view.chain.height)
    (extended : after.platform.calls =
      world.platform.calls ++ openingOf writer number answer more)
    (uncreated : createdWriters more = []) (unopened : attempts more = [])
    (others : ∀ other, other ≠ writer → Untouched more other)
    (kept : inUse assembler world ⊆ inUse next after)
    (used : ∀ other ∈ inUse next after, other ∈ inUse assembler world ∨
      other = writer ∧ Smooth after.platform.calls writer)
    (ended : writer ∉ inUse next after → Ended after.platform.calls production next writer)
    (onward : next.isHalted = false → after.view.chain.height = world.view.chain.height ∧
      Station.openWriters next = [writer]) :
    Conducted first next after production := by
  have running : assembler.isHalted = false := by rw [Assembler.isHalted, phase]
  have sameCreated : createdWriters after.platform.calls =
      createdWriters world.platform.calls ++ [writer] :=
    extended ▸ created_writers_opening uncreated
  have sameAttempts : attempts after.platform.calls =
      attempts world.platform.calls ++ [(writer, number)] :=
    extended ▸ attempts_opening unopened
  have beside : ∀ other < count, Untouched (openingOf writer number answer more) other := by
    intro other below
    have apart : other ≠ writer := Nat.ne_of_lt (Nat.lt_of_lt_of_le below new)
    exact opening_untouched apart (others other apart)
  have place : first + (attempts world.platform.calls).length = number.toNat := by
    have reached := conducted.next running
    rw [open_writers_of_idle phase] at reached
    exact reached.trans height.symm
  constructor
  · intro other member
    rw [sameCreated]
    rcases used other member with earlier | ⟨rfl, _⟩
    · exact List.mem_append_left _ (conducted.created other earlier)
    · exact List.mem_append_right _ (List.mem_singleton_self _)
  · intro other member
    rcases used other member with earlier | ⟨rfl, smooth⟩
    · rw [extended]
      exact (conducted.smooth other earlier).beside (beside other (tidy.counted other earlier))
    · exact smooth
  · intro other member unused
    rw [sameCreated, List.mem_append, List.mem_singleton] at member
    rcases member with earlier | rfl
    · rw [extended]
      exact (conducted.ended other earlier fun before => unused (kept before)).extend
        (beside other (created_lt tidy earlier)) (fun _ => id) (absurd_of_halted running)
    · exact ended unused
  · rw [sameAttempts, sameCreated, List.map_append, conducted.opened]
    rfl
  · rw [sameAttempts, List.map_append, conducted.consecutive, List.length_append,
      List.length_singleton, List.range'_1_concat, place]
    rfl
  · intro still
    obtain ⟨same, shown⟩ := onward still
    rw [sameAttempts, List.length_append, same, shown, ← height, ← place]
    rfl

theorem conducted_of_opened (counts : platform.CountsWriters created)
    (accounted : Accounted created assembler world history)
    (conducted : Conducted first assembler world (.ofHistory history)) {round : Round}
    {number : UInt64} {previousHash : Digest} {writer : WriterId}
    {between opened written : Journal σ} (phase : assembler.phase = .idle)
    (next : world.view.chain.nextNumber = .ok number)
    (create : platform.journaled.create world.platform = (.ok writer, between))
    (start : platform.journaled.openBlock writer number between = (.ok (), opened))
    (write : platform.journaled.writeItem writer
      (Assembler.header assembler.settings number previousHash round.time).encode opened =
        (.ok (), written)) :
    Conducted first (assembler.withBlock (Assembler.fresh number previousHash round writer))
      ((world.setPlatform written).showOpenBlock number) (.ofHistory history) := by
  have bounds := counts.journaled_create create
  have extended := ((Journal.Extends.of_create create).trans
    ((Journal.Extends.of_open_block start).trans (.of_write_item write))).calls
  have untouched := accounted.tidy.untouched writer bounds.1
  have used : inUse (assembler.withBlock (Assembler.fresh number previousHash round writer))
      ((world.setPlatform written).showOpenBlock number) = inUse assembler world ++ [writer] := by
    rw [in_use_of_assembling (Assembler.withBlock_phase assembler _), inUse,
      open_writers_of_idle phase, List.append_nil]
    rfl
  have smooth : Smooth written.calls writer := by
    have split : written.calls = world.platform.calls ++
        [.create (.ok writer), .openBlock writer number (.ok ())] ++ [.writeItem writer
          (Assembler.header assembler.settings number previousHash round.time).encode
          (.ok ())] := by
      rw [extended, List.append_assoc]
      rfl
    rw [split]
    exact (Smooth.of_opened untouched number).written _ _
  refine conducted.extend_new accounted.tidy bounds.1 phase (Chain.next_number_height next)
    extended rfl rfl ?_ ?_ ?_ ?_ (fun _ => ⟨rfl, rfl⟩)
  · intro other apart
    simp [Untouched, Call.writer?, apart.symm]
  · exact used ▸ List.subset_append_left _ _
  · intro other member
    rw [used, List.mem_append, List.mem_singleton] at member
    exact member.imp_right fun same => ⟨same, smooth⟩
  · intro unused
    exact absurd (used ▸ List.mem_append_right _ (List.mem_singleton_self _)) unused

/-- A writer that could not be opened, or not take in the header. -/
theorem lost_of_abandoned {calls more : List Call} {production : Production} {header : Header}
    {writer : WriterId} (untouched : Untouched calls writer)
    (nothing : production.taken = []) (unclosed : header.number ∉ production.numbers)
    (fault : IoFault)
    (failed : callsOn more writer = [.openBlock writer header.number (.error fault)] ∨
      callsOn more writer = [.openBlock writer header.number (.ok ()),
        .writeItem writer (Item.header header).encode (.error fault)]) (error : StreamError) :
    Ended (calls ++ more) production (assembler.halted error) writer := by
  have agrees : (Protocol.begun header [] (blankBoundary header.number)).Agrees :=
    Protocol.begun_agrees (fun item member => by cases member) (blank_boundary_info _)
  have only : callsOn (calls ++ more) writer = callsOn more writer := by
    rw [calls_on_append, calls_on_untouched untouched, List.nil_append]
  refine .lost (.begun header [] (blankBoundary header.number)) ?_ unclosed (.inl ?_) rfl
  · rcases failed with opening | writing
    · rw [opening] at only
      refine ⟨agrees, ?_, ?_, .inl nothing.symm⟩
      · rw [only]
        exact List.cons_prefix_cons.mpr ⟨rfl, List.nil_prefix⟩
      · rw [only]
        exact fun call member => by cases member
    · exact .of_succeeded agrees [] _ rfl _ (only.trans writing)
        (List.cons_prefix_cons.mpr ⟨rfl, List.nil_prefix⟩) (Nat.le_refl 1) (.inl nothing.symm)
  · rcases failed with opening | writing
    · exact ⟨_, only ▸ opening ▸ List.mem_cons_self, rfl⟩
    · exact ⟨_, only ▸ writing ▸ List.mem_cons_of_mem _ List.mem_cons_self, rfl⟩

theorem conducted_of_abandoned (counts : platform.CountsWriters created)
    (accounted : Accounted created assembler world history)
    (nothing : (Production.ofHistory history).taken = [])
    (conducted : Conducted first assembler world (.ofHistory history)) (header : Header)
    {fault : IoFault} {state : Journal σ} {error : StreamError} (phase : assembler.phase = .idle)
    (unclosed : header.number ∉ (Production.ofHistory history).numbers)
    (next : world.view.chain.nextNumber = .ok header.number)
    (left : Assembler.Abandoned platform.journaled header.number (.header header) world.platform
      fault state) :
    Conducted first (assembler.halted error) (world.setPlatform state).hideOpenBlock
      (.ofHistory history) := by
  have running : assembler.isHalted = false := by rw [Assembler.isHalted, phase]
  have used : inUse (assembler.halted error) (world.setPlatform state).hideOpenBlock =
      inUse assembler world := by
    rw [inUse, inUse, open_writers_of_idle phase]
    rfl
  have height := Chain.next_number_height next
  cases left with
  | notCreated fault state create =>
      refine conducted.extend_kept running used (Journal.Extends.of_create create).calls rfl rfl ?_
        ?_ (fun _ => id) (fun onward => absurd_of_halted onward rfl)
      · exact fun writer member =>
          (conducted.smooth writer member).beside (by simp [Untouched, Call.writer?])
      · simp [Untouched, Call.writer?]
  | notOpened writer fault between opened create start =>
      have bounds := counts.journaled_create create
      have untouched := accounted.tidy.untouched writer bounds.1
      have extended := ((Journal.Extends.of_create create).trans
        ((Journal.Extends.of_open_block start).trans (.of_release opened writer))).calls
      refine conducted.extend_new accounted.tidy bounds.1 phase height extended rfl rfl ?_
        (used ▸ List.Subset.refl _) (fun other member => .inl (used ▸ member)) (fun _ => ?_)
        (fun onward => absurd_of_halted onward rfl)
      · intro other apart
        simp [Untouched, Call.writer?, apart.symm]
      · exact extended ▸ lost_of_abandoned untouched nothing unclosed fault
          (.inl (by simp [callsOn, Call.isOn])) error
  | noHeader writer fault between opened written create start write =>
      have bounds := counts.journaled_create create
      have untouched := accounted.tidy.untouched writer bounds.1
      have extended := ((Journal.Extends.of_create create).trans
        ((Journal.Extends.of_open_block start).trans
          ((Journal.Extends.of_write_item write).trans (.of_release written writer)))).calls
      refine conducted.extend_new accounted.tidy bounds.1 phase height extended rfl rfl ?_
        (used ▸ List.Subset.refl _) (fun other member => .inl (used ▸ member)) (fun _ => ?_)
        (fun onward => absurd_of_halted onward rfl)
      · intro other apart
        simp [Untouched, Call.writer?, apart.symm]
      · exact extended ▸ lost_of_abandoned untouched nothing unclosed fault
          (.inr (by simp [callsOn, Call.isOn])) error

theorem conducted_of_not_written (accounted : Accounted created assembler world history)
    (coherent : assembler.Coherent world)
    (ascends : Ascends (Production.ofHistory history).numbers world.view.chain.lastNumber)
    (conducted : Conducted first assembler world (.ofHistory history)) {item : Item}
    {fault : IoFault} {state : Journal σ} (error : StreamError)
    (phase : assembler.phase = .assembling block)
    (call : platform.journaled.writeItem block.writer item.encode world.platform =
      (.error fault, state))
    (kind : item.isManaged = false ∨
      ∃ round, item = Assembler.boundary round (block.checkpoint world.view)) :
    Conducted first (assembler.halted error)
      (world.setPlatform (platform.journaled.release block.writer state)).hideOpenBlock
      (.ofHistory history) := by
  obtain ⟨header, assembling⟩ := accounted.assembling block phase
  have smooth := conducted.smooth block.writer (by simp [in_use_of_assembling phase])
  have extended :=
    ((Journal.Extends.of_write_item call).trans (.of_release state block.writer)).calls
  have failed : callsOn ([.writeItem block.writer item.encode (.error fault)] ++
      [.release block.writer]) block.writer =
        [.writeItem block.writer item.encode (.error fault)] := by simp [callsOn, Call.isOn]
  refine conducted_of_lost accounted conducted phase extended rfl rfl ?_ rfl
    (ascends.next_new (coherent.follows block phase).next)
    (assembling.conduct_failed smooth kind failed) (.inl ?_)
  · intro other apart
    simp [Untouched, Call.writer?, apart.symm]
  · refine ⟨.writeItem block.writer item.encode (.error fault), ?_, rfl⟩
    rw [calls_on_append, failed]
    exact List.mem_append_right _ (List.mem_singleton_self _)

theorem conducted_of_not_saved (accounted : Accounted created assembler world history)
    (ascends : Ascends (Production.ofHistory history).numbers world.view.chain.lastNumber)
    (conducted : Conducted first assembler world (.ofHistory history)) {round : Round}
    {error : StreamError} {written saved : Journal σ}
    (phase : assembler.phase = .assembling block)
    (next : world.view.chain.nextNumber = .ok block.number)
    (write : platform.journaled.writeItem block.writer
      (Assembler.boundary round (block.checkpoint world.view)).encode world.platform =
        (.ok (), written))
    (save : platform.journaled.save (block.checkpoint world.view) written = (.error error, saved)) :
    Conducted first (assembler.halted error)
      ((world.setPlatform (platform.journaled.release block.writer saved)).addItem
        (Assembler.boundary round (block.checkpoint world.view))).hideOpenBlock
      (.ofHistory history) := by
  obtain ⟨header, assembling⟩ := accounted.assembling block phase
  have smooth := conducted.smooth block.writer (by simp [in_use_of_assembling phase])
  have extended := (((Journal.Extends.of_write_item write).trans
    (Journal.Extends.of_save save)).trans (.of_release saved block.writer)).calls
  refine conducted_of_lost accounted conducted phase extended rfl rfl ?_ rfl
    (ascends.next_new next) ?_ (.inr ?_)
  · intro other apart
    simp [Untouched, Call.writer?, apart.symm]
  · apply assembling.conduct_bounded smooth round
    simp [callsOn, Call.isOn]
  · refine ⟨block.number, ?_, block.checkpoint world.view, error, rfl, by simp⟩
    rw [openings_append, assembling.opened]
    exact List.mem_append_left _ (List.mem_singleton_self _)

theorem conducted_of_moved {next : Assembler} {events : List Event}
    (counts : platform.CountsWriters created) (coherent : assembler.Coherent world)
    (idle : assembler.phase = .idle → (Production.ofHistory history).taken = [])
    (ascends : Ascends (Production.ofHistory history).numbers world.view.chain.lastNumber)
    (accounted : Accounted created assembler world history)
    (conducted : Conducted first assembler world (.ofHistory history))
    (moved : Moved platform.journaled assembler world events next after) :
    Conducted first next after (.ofHistory (history ++ events)) := by
  rw [Production.of_history_append]
  cases moved with
  | quiet events quiet =>
      rw [Production.observe_quiet quiet]
      exact conducted
  | opened round number previousHash writer created opened written phase prior next create start
      write => exact conducted_of_opened counts accounted conducted phase next create start write
  | abandoned round number previousHash fault state event quiet phase prior next left =>
      rw [Production.observe_one_quiet quiet]
      exact conducted_of_abandoned counts accounted (idle phase) conducted
        ⟨number, round.time, previousHash, assembler.settings.softwareVersion, .sha384⟩ phase
        (ascends.next_new next) next left
  | written block item state phase unmanaged call =>
      exact conducted_of_written conducted phase call
  | notWritten block item fault state event quiet phase call kind =>
      rw [Production.observe_one_quiet quiet]
      exact conducted_of_not_written accounted coherent ascends conducted _ phase call kind
  | counted round block counted phase added early =>
      exact conducted_of_counted conducted phase added
  | notSaved round block counted error written saved event quiet phase added due write save =>
      rw [Production.observe_one_quiet quiet]
      exact conducted_of_not_saved (accounted_of_counted accounted phase added) ascends
        (conducted_of_counted conducted phase added) (Assembler.withBlock_phase assembler counted)
        (Assembler.follows_of_add_round added (coherent.follows block phase)).next write save
  | closed round block counted written saved phase added due write save =>
      exact conducted_of_closed coherent conducted phase added write save
  | signed signature answer after applied =>
      exact conducted_of_signed accounted conducted applied

end

/-! ### Whole sessions -/

/-- What is true of the writers of a session at every moment: one opening each, of successive
numbers; calls as the protocol has them; and one owner for whoever is neither closed nor failed,
unless the checkpoint of its block could not be saved, which has halted the stream. -/
structure Session.KeepsProtocol {σ : Type} (first : Nat) (session : Session (Journal σ)) :
    Prop where
  opened : (attempts session.world.platform.calls).map Prod.fst =
    createdWriters session.world.platform.calls
  consecutive : (attempts session.world.platform.calls).map (fun attempt => attempt.2.toNat) =
    List.range' first (attempts session.world.platform.calls).length
  once : ((attempts session.world.platform.calls).map Prod.snd).Nodup
  conduct : ∀ writer ∈ createdWriters session.world.platform.calls, ∃ protocol : Protocol,
    Conduct session.world.platform.calls (session.production.accepted protocol.number) writer
      protocol
  owned : ∀ writer ∈ createdWriters session.world.platform.calls,
    ¬ IsClosed session.world.platform.calls writer → ¬ Fails session.world.platform.calls writer →
      (inUse session.assembler session.world).count writer = 1 ∨
        IsUnsaved session.world.platform.calls writer ∧ session.assembler.isHalted = true
  owners : ∀ writer ∈ inUse session.assembler session.world,
    writer ∈ createdWriters session.world.platform.calls ∧
      ¬ IsClosed session.world.platform.calls writer ∧
      ¬ Fails session.world.platform.calls writer
  oneOpen : (Station.openWriters session.assembler).length ≤ 1

section

variable {σ : Type} {platform : Platform σ} {created : σ → Nat} {first : Nat}

theorem accepted_of_closed {production : Production} {last : Option UInt64}
    (ascends : Ascends production.numbers last) {closed : ClosedBlock} {items : List Item}
    (member : (closed, items) ∈ production.closed) :
    production.accepted closed.number = items := by
  unfold Production.accepted
  cases found : production.closed.find? fun entry => entry.1.number == closed.number with
  | none =>
      have apart := List.find?_eq_none.mp found _ member
      simp at apart
  | some entry =>
      have same : entry.1.number = closed.number := by simpa using List.find?_some found
      rw [same_number ascends (List.mem_of_find?_eq_some found) member same]

theorem accepted_of_unclosed {production : Production} {number : UInt64}
    (unclosed : number ∉ production.numbers) : production.accepted number = production.taken := by
  unfold Production.accepted
  rw [List.find?_eq_none.mpr]
  intro entry member same
  exact unclosed (List.mem_map.mpr ⟨entry, member, by simpa using same⟩)

theorem open_writers_length (assembler : Assembler) :
    (Station.openWriters assembler).length ≤ 1 := by
  unfold Station.openWriters
  split <;> simp

theorem assembling_of_open_writer {assembler : Assembler} {writer : WriterId}
    (member : writer ∈ Station.openWriters assembler) :
    ∃ block, assembler.phase = .assembling block ∧ block.writer = writer := by
  unfold Station.openWriters at member
  split at member
  · rename_i block phase
    exact ⟨block, phase, (List.mem_singleton.mp member).symm⟩
  all_goals cases member

theorem Smooth.sound {calls : List Call} {writer : WriterId} (smooth : Smooth calls writer) :
    ¬ Fails calls writer := by
  rintro ⟨call, member, failed⟩
  rw [smooth, List.mem_append] at member
  rcases member with opening | writing
  · obtain ⟨number, _, rfl⟩ := List.mem_map.mp opening
    cases failed
  · obtain ⟨content, _, rfl⟩ := List.mem_map.mp writing
    cases failed

variable {session : Session (Journal σ)} (sound : session.Sound created)
  (conducted : Conducted first session.assembler session.world session.production)

include sound conducted

/-- Whoever has a writer, or had it last, tells what was accepted for its block. -/
theorem conduct_of_created {writer : WriterId}
    (made : writer ∈ createdWriters session.world.platform.calls) :
    ∃ protocol : Protocol, Conduct session.world.platform.calls
      (session.production.accepted protocol.number) writer protocol := by
  have accounted := sound.accounted
  by_cases used : writer ∈ inUse session.assembler session.world
  · have smooth := conducted.smooth writer used
    rcases List.mem_append.mp used with waiting | assembling
    · obtain ⟨block, member, rfl⟩ := List.mem_map.mp waiting
      obtain ⟨sealedBlock, awaits⟩ := accounted.settled.pending block member
      refine ⟨sealedBlock.protocol ⟨sealedBlock.header.number, .zero, [], []⟩, ?_⟩
      have same := accepted_of_closed sound.ascends awaits.kept.closed
      rw [awaits.agrees.number] at same
      exact same ▸ awaits.conduct smooth
    · obtain ⟨block, phase, rfl⟩ := assembling_of_open_writer assembling
      obtain ⟨header, assembling⟩ := accounted.assembling block phase
      have unclosed := sound.ascends.next_new (sound.coherent.follows block phase).next
      rw [← assembling.number] at unclosed
      refine ⟨.begun header session.production.taken (blankBoundary header.number), ?_⟩
      exact (accepted_of_unclosed unclosed).symm ▸ assembling.conduct smooth
  · cases conducted.ended writer made used with
    | completed protocol closed items conduct member number ending =>
        refine ⟨protocol, ?_⟩
        rwa [← number, accepted_of_closed sound.ascends member]
    | lost protocol conduct unclosed ending halted =>
        refine ⟨protocol, ?_⟩
        rwa [accepted_of_unclosed unclosed]

theorem keeps_protocol : session.KeepsProtocol first where
  opened := conducted.opened
  consecutive := conducted.consecutive
  once := by
    have numbers := conducted.consecutive
    rw [← Function.comp_def UInt64.toNat Prod.snd, ← List.map_map] at numbers
    exact List.Nodup.of_map UInt64.toNat (numbers ▸ List.nodup_range')
  conduct := fun writer made => conduct_of_created sound conducted made
  owned := by
    intro writer made unclosed sane
    have distinct := sound.accounted.tidy.distinct
    by_cases used : writer ∈ inUse session.assembler session.world
    · exact .inl (List.count_eq_one_of_mem distinct used)
    · cases conducted.ended writer made used with
      | completed protocol closed items conduct member number ending =>
          exact absurd ending (not_or.mpr ⟨unclosed, sane⟩)
      | lost protocol conduct new ending halted => exact .inr ⟨ending.resolve_left sane, halted⟩
  owners := fun writer used => ⟨conducted.created writer used,
    sound.accounted.tidy.unclosed writer used, (conducted.smooth writer used).sound⟩
  oneOpen := open_writers_length _

end

section

variable {σ : Type} {platform : Platform σ} {created : σ → Nat} {first : Nat}

theorem conducted_run (counts : platform.CountsWriters created) {session : Session (Journal σ)}
    (sound : session.Sound created)
    (conducted : Conducted first session.assembler session.world session.production)
    (operations : List Operation) :
    Conducted first (session.run platform.journaled operations).assembler
      (session.run platform.journaled operations).world
      (session.run platform.journaled operations).production := by
  induction operations generalizing session with
  | nil => exact conducted
  | cons operation later inductive_hypothesis =>
      have moves := Session.step_moves platform.journaled sound.coherent operation
      apply inductive_hypothesis (sound_of_moved counts sound moves)
      obtain ⟨events, moved, history⟩ := moves
      rw [Session.production, history]
      exact conducted_of_moved counts sound.coherent sound.idle sound.ascends sound.accounted
        conducted moved

theorem conducted_fresh {assembler : Assembler} (idle : assembler.phase = .idle) (view : View)
    (state : σ) : Conducted view.chain.height
      (Session.fresh assembler view (⟨[], state⟩ : Journal σ)).assembler
      (Session.fresh assembler view (⟨[], state⟩ : Journal σ)).world .empty := by
  have unused : inUse (Session.fresh assembler view (⟨[], state⟩ : Journal σ)).assembler
      (Session.fresh assembler view (⟨[], state⟩ : Journal σ)).world = [] :=
    open_writers_of_idle idle
  have nobody : Station.openWriters
      (Session.fresh assembler view (⟨[], state⟩ : Journal σ)).assembler = [] :=
    open_writers_of_idle idle
  refine ⟨?_, ?_, ?_, rfl, rfl, ?_⟩
  · simp [unused]
  · simp [unused]
  · exact fun writer made => by cases made
  · intro _
    rw [nobody]
    rfl

/-- Writers are driven by their protocol, whatever fails and whenever signatures come. The numbers
of their blocks begin with the one after the checkpoint at the start. -/
theorem writers_keep_the_protocol (counts : platform.CountsWriters created)
    {settings : StreamSettings} {startup : Startup} {assembler : Assembler} {view : View}
    (started : Assembler.start settings startup = .ok (assembler, view)) (state : σ)
    (operations : List Operation) :
    ∃ first, startup.checkpoint.nextNumber = .ok first ∧
      ((Session.fresh assembler view ⟨[], state⟩).run platform.journaled
        operations).KeepsProtocol first.toNat := by
  have idle := Assembler.start_idle started
  obtain ⟨_, valid, _, shown⟩ := Assembler.start_ok started
  obtain ⟨_, first, next⟩ := Checkpoint.view_of_valid valid
  refine ⟨first, next, ?_⟩
  have height : view.chain.height = first.toNat := by
    rw [Chain.next_number_height next, shown, Chain.height, Chain.start_last_number]
    rfl
  have fresh : (Session.fresh assembler view (⟨[], state⟩ : Journal σ)).Sound created :=
    Session.sound_fresh idle view state
  rw [← height]
  exact keeps_protocol (Session.sound_run counts fresh operations)
    (conducted_run counts fresh (conducted_fresh idle view state) operations)

end

/-! ### Where calls fail -/

/-- A platform that answers so many more calls and fails from then on. -/
structure Lasting where
  left : Nat
  created : Nat

namespace Lasting

def fault : IoFault := .reported .other "worn out"

/-- One more call. -/
def spend {ε : Type} (state : Lasting) (failure : ε) : Except ε Unit × Lasting :=
  if state.left = 0 then (.error failure, state)
  else (.ok (), { state with left := state.left - 1 })

def create (state : Lasting) : Except IoFault WriterId × Lasting :=
  if state.left = 0 then (.error fault, state)
  else (.ok state.created, ⟨state.left - 1, state.created + 1⟩)

def platform : Platform Lasting where
  create := create
  openBlock := fun _ _ state => state.spend fault
  writeItem := fun _ _ state => state.spend fault
  closeBlock := fun _ state => state.spend fault
  release := fun _ state => state
  save := fun _ state => state.spend (.stateStore fault.message)

theorem spend_created {ε : Type} (state : Lasting) (failure : ε) :
    (state.spend failure).2.created = state.created := by
  unfold spend
  split <;> rfl

theorem counts_writers : platform.CountsWriters Lasting.created where
  create_ok := by
    intro state after writer made
    simp only [platform, create] at made
    split at made
    · cases made
    · cases made
      exact ⟨Nat.le_refl _, Nat.lt_succ_self _⟩
  create := by
    intro state
    simp only [platform, create]
    split
    · exact Nat.le_refl _
    · exact Nat.le_succ _
  openBlock := fun _ _ state => Nat.le_of_eq (state.spend_created _).symm
  writeItem := fun _ _ state => Nat.le_of_eq (state.spend_created _).symm
  closeBlock := fun _ state => Nat.le_of_eq (state.spend_created _).symm
  release := fun _ _ => Nat.le_refl _
  save := fun _ state => Nat.le_of_eq (state.spend_created _).symm

/-- A session from the genesis on, as long as calls succeed. -/
def session (calls : Nat) (operations : List Operation) : Session (Journal Lasting) :=
  (Session.fresh ⟨.default, .idle, none⟩ ⟨Chain.start .empty (some .genesis), .empty, none⟩
    ⟨[], ⟨calls, 0⟩⟩).run platform.journaled operations

end Lasting

/-- The proof of the block is the first call that fails. -/
theorem unproven_writer_kept_the_protocol :
    Assembler.start .default .genesis =
        .ok (⟨.default, .idle, none⟩, ⟨Chain.start .empty (some .genesis), .empty, none⟩) ∧
      attempts (Lasting.session 6 oneBlock).world.platform.calls = [(0, 0)] ∧
      ∃ first, Startup.genesis.checkpoint.nextNumber = .ok first ∧
        (Lasting.session 6 oneBlock).KeepsProtocol first.toNat := by
  have started : Assembler.start .default .genesis =
      .ok (⟨.default, .idle, none⟩, ⟨Chain.start .empty (some .genesis), .empty, none⟩) := rfl
  exact ⟨started, by decide +kernel,
    writers_keep_the_protocol Lasting.counts_writers started _ oneBlock⟩

/-- A block that is closed at once, with a checkpoint that cannot be saved. -/
def unsavedBlock : Session (Journal Lasting) :=
  Lasting.session 4 [.startRound ⟨1, ⟨1, 0⟩, true, []⟩, .endRound ⟨1, ⟨1, 0⟩, true, []⟩]

/-- An item that the writer does not take in. -/
def refusedItem : Session (Journal Lasting) :=
  Lasting.session 3 [.startRound ⟨1, ⟨1, 0⟩, true, []⟩, .writeItem (.transaction ⟨[1, 2]⟩)]

/-- A failed save leaves a writer to nobody on which no call has failed, and an item that could not
be written was written for no accepted item. -/
theorem failures_strand_a_writer_and_an_item :
    (0 ∈ createdWriters unsavedBlock.world.platform.calls ∧
      ¬ IsClosed unsavedBlock.world.platform.calls 0 ∧
      ¬ Fails unsavedBlock.world.platform.calls 0 ∧
      (inUse unsavedBlock.assembler unsavedBlock.world).count 0 = 0) ∧
    0 ∈ createdWriters refusedItem.world.platform.calls ∧
      ¬ ∃ protocol : Protocol,
        protocol.items = refusedItem.production.accepted protocol.number ∧
          (callsOn refusedItem.world.platform.calls 0).map Call.effect <+: protocol.effects 0 := by
  have unclosed : ¬ IsClosed unsavedBlock.world.platform.calls 0 := by
    rintro ⟨answer, member⟩
    have others : ∀ call ∈ unsavedBlock.world.platform.calls,
        (match call with | .closeBlock _ _ => false | _ => true) = true := by decide +kernel
    exact absurd (others _ member) Bool.false_ne_true
  have sane : ¬ Fails unsavedBlock.world.platform.calls 0 := by
    unfold Fails
    decide +kernel
  refine ⟨⟨by decide +kernel, unclosed, sane, by decide +kernel⟩, by decide +kernel, ?_⟩
  have calls : callsOn refusedItem.world.platform.calls 0 =
      [.openBlock 0 0 (.ok ()),
        .writeItem 0 (Assembler.header .default 0 .zero ⟨1, 0⟩).encode (.ok ()),
        .writeItem 0 (Item.transaction ⟨[1, 2]⟩).encode (.error Lasting.fault)] := by
    decide +kernel
  have nothing : refusedItem.production.accepted 0 = [] := by decide +kernel
  rintro ⟨protocol, items, order⟩
  rw [calls] at order
  obtain ⟨opening, order⟩ := List.cons_prefix_cons.mp order
  have number : protocol.number = 0 := by
    injection opening with _ same
    exact same.symm
  -- the boundary would be the second item of a block without accepted ones
  rw [number, nothing] at items
  rw [Protocol.allItems, items] at order
  obtain ⟨second, _⟩ := List.cons_prefix_cons.mp (List.cons_prefix_cons.mp order).2
  injection second with _ same
  have first : (Item.transaction ⟨[1, 2]⟩).encode.head? =
      (Item.stateChanges protocol.boundary).encode.head? := congrArg List.head? same
  have tags : some (1 : UInt8) = some 3 := first
  exact absurd tags (by decide)

end ProvenBlocks
