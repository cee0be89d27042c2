import Mathlib.Tactic.Simps.Basic
import ProvenBlocks.Assembler
import ProvenBlocks.Proofs.Ledger
import ProvenBlocks.Proofs.Resolution

/-!
What the operations of an assembler can do. Each operation has one relation between the world it
starts in and how it ends, with a constructor for every way to end; all that a constructor leaves
out is unchanged. The answers of the platform are arbitrary.
-/

namespace ProvenBlocks

/-- The open block after an item was written to it. -/
def OpenBlock.add (block : OpenBlock) (item : Item) : OpenBlock :=
  match item.root with
  | some .input => { block with input := block.input.add item.hash, items := block.items + 1 }
  | some .output | none => { block with items := block.items + 1 }

section

variable (block : OpenBlock) (item : Item)

@[simp] theorem OpenBlock.add_number : (block.add item).number = block.number := by
  unfold OpenBlock.add
  split <;> rfl

@[simp] theorem OpenBlock.add_previous_hash :
    (block.add item).previousHash = block.previousHash := by
  unfold OpenBlock.add
  split <;> rfl

@[simp] theorem OpenBlock.add_time : (block.add item).time = block.time := by
  unfold OpenBlock.add
  split <;> rfl

@[simp] theorem OpenBlock.add_rounds : (block.add item).rounds = block.rounds := by
  unfold OpenBlock.add
  split <;> rfl

@[simp] theorem OpenBlock.add_items : (block.add item).items = block.items + 1 := by
  unfold OpenBlock.add
  split <;> rfl

@[simp] theorem OpenBlock.add_writer : (block.add item).writer = block.writer := by
  unfold OpenBlock.add
  split <;> rfl

end

/-- Only results change what readers may come to see. -/
def View.add (view : View) (item : Item) : View :=
  match item.root with
  | some .output => { view with outputs := view.outputs.add item.hash }
  | some .input | none => view

@[simp] theorem View.add_chain (view : View) (item : Item) :
    (view.add item).chain = view.chain := by
  unfold View.add
  split <;> rfl

@[simp] theorem View.add_history (view : View) (item : Item) :
    (view.add item).outputs.history = view.outputs.history := by
  unfold View.add
  split <;> rfl

@[simp] theorem View.add_seed (view : View) (item : Item) :
    (view.add item).outputs.seed = view.outputs.seed := by
  unfold View.add
  split <;> rfl

@[simp] theorem View.add_open_block (view : View) (item : Item) :
    (view.add item).openBlock = view.openBlock := by
  unfold View.add
  split <;> rfl

namespace OpenBlock

/-- The steps that lead from the hash before a block to its own, if it is closed now. -/
def steps (block : OpenBlock) (view : View) : List Digest :=
  Chain.steps block.input.value view.outputs.running.value

def hash (block : OpenBlock) (view : View) : Digest :=
  block.previousHash.linkAll (block.steps view)

end OpenBlock

/-- What readers see once a block is closed. -/
@[simps]
def View.close (view : View) (block : OpenBlock) : View where
  chain := ⟨(view.chain.history.push (block.hash view)).2, some (block.hash view),
    some block.number⟩
  outputs := view.outputs.finish.2
  openBlock := none

namespace OpenBlock

/-- The checkpoint that is saved when a block is closed. -/
@[simps]
def checkpoint (block : OpenBlock) (view : View) : Checkpoint where
  blockNumber := some block.number
  blockTime := some block.time
  outputRoots := (view.close block).outputs.trailing
  blockHashes := (view.close block).chain.trailing

@[simps]
def unproven (block : OpenBlock) (view : View) : UnprovenBlock WriterId :=
  ⟨block.number, block.hash view, block.previousHash, block.steps view, block.writer⟩

@[simps]
def closed (block : OpenBlock) (view : View) (round : Round) : ClosedBlock where
  number := block.number
  hash := block.hash view
  previousHash := block.previousHash
  time := block.time
  inputRoot := block.input.value
  outputRoot := view.outputs.running.value
  rounds := block.rounds
  items := UInt64.ofNat (block.items + 1)
  frozen := round.freeze

end OpenBlock

namespace World

variable {σ : Type}

@[simps]
def setPlatform (world : World σ) (platform : σ) : World σ := { world with platform := platform }

/-- The world after an item was written. -/
@[simps]
def addItem (world : World σ) (item : Item) : World σ :=
  { world with view := world.view.add item, counters := world.counters.increment .items }

@[simps]
def hideOpenBlock (world : World σ) : World σ :=
  { world with view := { world.view with openBlock := none } }

/-- The world after a block was opened and its header written. -/
@[simps]
def showOpenBlock (world : World σ) (number : UInt64) : World σ :=
  { world with
    view := { world.view with outputs := world.view.outputs.reset, openBlock := some number }
    counters := (world.counters.increment .items).increment .opened }

/-- The world after the checkpoint of a closed block was saved. -/
@[simps]
def showClosed (world : World σ) (block : OpenBlock) : World σ :=
  { world with view := world.view.close block, counters := world.counters.increment .items }

/-- The world after a block was closed and handed over. -/
@[simps]
def close (world : World σ) (block : OpenBlock) : World σ where
  view := world.view.close block
  unproven := ⟨world.unproven.blocks ++ [block.unproven world.view]⟩
  counters := ((world.counters.increment .items).increment .requests).increment .closed
  requests := world.requests ++ [block.hash world.view]
  platform := world.platform

/-- The newest unproven block is the newest block of the chain. -/
def Linked (world : World σ) : Prop :=
  ∀ newest, world.unproven.blocks.getLast? = some newest →
    world.view.chain.lastNumber = some newest.number ∧ world.view.chain.prior = some newest.hash

/-- The open block is the next block of the chain. -/
structure Follows (world : World σ) (block : OpenBlock) : Prop where
  prior : world.view.chain.prior = some block.previousHash
  next : world.view.chain.nextNumber = .ok block.number

end World

namespace Assembler

variable {σ : Type} (platform : Platform σ)

/-! ### The start -/

theorem start_idle {settings : StreamSettings} {startup : Startup}
    {assembler : Assembler} {view : View}
    (started : Assembler.start settings startup = .ok (assembler, view)) :
    assembler.phase = .idle := by
  simp only [Assembler.start] at started
  split at started
  · contradiction
  · rcases seeded : Chain.seeded startup with failure | chain
    · simp [seeded, bind, Except.bind] at started
    · simp only [seeded, bind, Except.bind, Except.ok.injEq, Prod.mk.injEq] at started
      rw [← started.1]

/-! ### Items -/

inductive Appended (platform : Platform σ) (block : OpenBlock) (item : Item) (world : World σ) :
    Except Overflow (Except StreamError OpenBlock) × World σ → Prop
  | failed (fault : IoFault) (state : σ)
      (call : platform.writeItem block.writer item.encode world.platform = (.error fault, state)) :
      Appended platform block item world
        (.ok (.error (.writer block.number fault.message)), world.setPlatform state)
  | written (state : σ)
      (call : platform.writeItem block.writer item.encode world.platform = (.ok (), state)) :
      Appended platform block item world
        (.ok (.ok (block.add item)), (world.setPlatform state).addItem item)

theorem append_item_outcome (block : OpenBlock) (item : Item) (world : World σ) :
    Appended platform block item world ((appendItem block item).run platform world) := by
  rcases call : platform.writeItem block.writer item.encode world.platform with
    ⟨fault | _, state⟩
  · have ran : (appendItem block item).run platform world =
        (.ok (.error (.writer block.number fault.message)), world.setPlatform state) := by
      simp only [appendItem, Script.run_bind, Script.run_write_item, call, Script.run_pure,
        World.setPlatform]
    rw [ran]
    exact .failed fault state call
  · have ran : (appendItem block item).run platform world =
        (.ok (.ok (block.add item)), (world.setPlatform state).addItem item) := by
      simp only [appendItem, Script.run_bind, Script.run_write_item, call]
      rcases fed : item.root with _ | _ | _ <;>
        simp [fed, Script.run_bind, OpenBlock.add, View.add, World.addItem, World.setPlatform,
          Item.hash]
    rw [ran]
    exact .written state call

/-! ### Opening a block -/

/-- A block that could not be opened: the platform before, the fault, and the platform after the
writer was let go. -/
inductive Abandoned (platform : Platform σ) (number : UInt64) (header : Item) (before : σ) :
    IoFault → σ → Prop
  | notCreated (fault : IoFault) (state : σ)
      (create : platform.create before = (.error fault, state)) :
      Abandoned platform number header before fault state
  | notOpened (writer : WriterId) (fault : IoFault) (created opened : σ)
      (create : platform.create before = (.ok writer, created))
      (start : platform.openBlock writer number created = (.error fault, opened)) :
      Abandoned platform number header before fault (platform.release writer opened)
  | noHeader (writer : WriterId) (fault : IoFault) (created opened written : σ)
      (create : platform.create before = (.ok writer, created))
      (start : platform.openBlock writer number created = (.ok (), opened))
      (write : platform.writeItem writer header.encode opened = (.error fault, written)) :
      Abandoned platform number header before fault (platform.release writer written)

/-- A block right after it was opened. -/
@[simps]
def fresh (number : UInt64) (previousHash : Digest) (round : Round) (writer : WriterId) :
    OpenBlock :=
  ⟨number, previousHash, round.time, 0, 1, RunningDigest.empty, writer⟩

inductive Opened (platform : Platform σ) (settings : StreamSettings) (round : Round)
    (world : World σ) : Except Overflow (Except StreamError OpenBlock) × World σ → Prop
  | unanchored (prior : world.view.chain.prior = none) :
      Opened platform settings round world (.ok (.error .uninitializedChain), world)
  | overflow (previousHash : Digest) (overflow : Overflow)
      (prior : world.view.chain.prior = some previousHash)
      (next : world.view.chain.nextNumber = .error overflow) :
      Opened platform settings round world (.error overflow, world)
  | abandoned (number : UInt64) (previousHash : Digest) (fault : IoFault) (state : σ)
      (prior : world.view.chain.prior = some previousHash)
      (next : world.view.chain.nextNumber = .ok number)
      (left : Abandoned platform number (header settings number previousHash round.time)
        world.platform fault state) :
      Opened platform settings round world
        (.ok (.error (.writer number fault.message)), world.setPlatform state)
  | opened (number : UInt64) (previousHash : Digest) (writer : WriterId)
      (created opened written : σ)
      (prior : world.view.chain.prior = some previousHash)
      (next : world.view.chain.nextNumber = .ok number)
      (create : platform.create world.platform = (.ok writer, created))
      (start : platform.openBlock writer number created = (.ok (), opened))
      (write : platform.writeItem writer
        (header settings number previousHash round.time).encode opened = (.ok (), written)) :
      Opened platform settings round world
        (.ok (.ok (fresh number previousHash round writer)),
          (world.setPlatform written).showOpenBlock number)

theorem open_block_outcome (settings : StreamSettings) (round : Round) (world : World σ) :
    Opened platform settings round world ((openBlock settings round).run platform world) := by
  rcases prior : world.view.chain.prior with _ | previousHash
  · simp only [openBlock, Script.run_bind, Script.run_read_view, prior, Script.run_pure]
    exact .unanchored prior
  rcases next : world.view.chain.nextNumber with overflow | number
  · simp only [openBlock, Script.run_bind, Script.run_read_view, prior, next, Script.ofOverflow,
      Script.run_stop]
    exact .overflow previousHash overflow prior next
  rcases create : platform.create world.platform with ⟨fault | writer, created⟩
  · simp only [openBlock, Script.run_bind, Script.run_read_view, prior, next, Script.ofOverflow,
      Script.run, Script.run_create_writer, create, Script.run_pure]
    exact .abandoned number previousHash fault created prior next (.notCreated fault created create)
  rcases start : platform.openBlock writer number created with ⟨fault | _, opened⟩
  · simp only [openBlock, Script.run_bind, Script.run_read_view, prior, next, Script.ofOverflow,
      Script.run, Script.run_create_writer, create, Script.run_open_block, start,
      Script.run_release, Script.run_pure]
    exact .abandoned number previousHash fault _ prior next
      (.notOpened writer fault created opened create start)
  simp only [openBlock, Script.run_bind, Script.run_read_view, prior, next, Script.ofOverflow,
    Script.run, Script.run_create_writer, create, Script.run_open_block, start]
  have appended := append_item_outcome platform
    ⟨number, previousHash, round.time, 0, 0, RunningDigest.empty, writer⟩
    (header settings number previousHash round.time) (world.setPlatform opened)
  simp only [World.setPlatform] at appended
  generalize (appendItem _ _).run platform _ = result at appended ⊢
  cases appended with
  | failed fault state call =>
      simp only [Script.run_release, Script.run_bind, Script.run_pure]
      exact .abandoned number previousHash fault _ prior next
        (.noHeader writer fault created opened state create start call)
  | written state call =>
      simp only [Script.run_bind, Script.run_read_view, Script.run_write_view, Script.run_count,
        Script.run_pure]
      exact .opened number previousHash writer created opened state prior next create start call

/-! ### Rounds and items -/

@[simps]
def halted (assembler : Assembler) (error : StreamError) : Assembler :=
  { assembler with phase := .halted error.message }

@[simps]
def withBlock (assembler : Assembler) (block : OpenBlock) : Assembler :=
  { assembler with phase := .assembling block }

theorem run_halt {α : Type} (assembler : Assembler) (error : StreamError) (world : World σ) :
    (assembler.halt (α := α) error).run platform world =
      (.ok (.error error, assembler.halted error), world.hideOpenBlock) := rfl

/-- A writable assembler is idle or has a block open. -/
theorem check_writable_cases (assembler : Assembler) :
    (∃ error, assembler.checkWritable = .error error) ∨
      assembler.checkWritable = .ok () ∧
        (assembler.phase = .idle ∨ ∃ block, assembler.phase = .assembling block) := by
  rcases phase : assembler.phase with _ | block | block | reason
  · exact .inr ⟨by simp [checkWritable, phase], .inl rfl⟩
  · exact .inr ⟨by simp [checkWritable, phase], .inr ⟨block, rfl⟩⟩
  · exact .inl ⟨.frozen block, by simp [checkWritable, phase]⟩
  · exact .inl ⟨.halted reason, by simp [checkWritable, phase]⟩

inductive RoundStarted (platform : Platform σ) (assembler : Assembler) (round : Round)
    (world : World σ) : Except Overflow (Except StreamError Unit × Assembler) × World σ → Prop
  | refused (error : StreamError) (ended : assembler.checkWritable = .error error) :
      RoundStarted platform assembler round world (.ok (.error error, assembler), world)
  | continued (block : OpenBlock) (phase : assembler.phase = .assembling block) :
      RoundStarted platform assembler round world (.ok (.ok (), assembler), world)
  | unanchored (phase : assembler.phase = .idle) (prior : world.view.chain.prior = none) :
      RoundStarted platform assembler round world
        (.ok (.error .uninitializedChain, assembler), world)
  | overflow (overflow : Overflow) (phase : assembler.phase = .idle)
      (next : world.view.chain.nextNumber = .error overflow) :
      RoundStarted platform assembler round world (.error overflow, world)
  | halted (number : UInt64) (previousHash : Digest) (fault : IoFault) (state : σ)
      (phase : assembler.phase = .idle)
      (prior : world.view.chain.prior = some previousHash)
      (next : world.view.chain.nextNumber = .ok number)
      (left : Abandoned platform number
        (header assembler.settings number previousHash round.time) world.platform fault state) :
      RoundStarted platform assembler round world
        (.ok (.error (.writer number fault.message),
          assembler.halted (.writer number fault.message)),
          (world.setPlatform state).hideOpenBlock)
  | opened (number : UInt64) (previousHash : Digest) (writer : WriterId)
      (created opened written : σ)
      (phase : assembler.phase = .idle)
      (prior : world.view.chain.prior = some previousHash)
      (next : world.view.chain.nextNumber = .ok number)
      (create : platform.create world.platform = (.ok writer, created))
      (start : platform.openBlock writer number created = (.ok (), opened))
      (write : platform.writeItem writer
        (header assembler.settings number previousHash round.time).encode opened =
          (.ok (), written)) :
      RoundStarted platform assembler round world
        (.ok (.ok (), assembler.withBlock (fresh number previousHash round writer)),
          (world.setPlatform written).showOpenBlock number)

theorem start_round_outcome (assembler : Assembler) (round : Round) (world : World σ) :
    RoundStarted platform assembler round world
      ((assembler.startRound round).run platform world) := by
  rcases assembler.check_writable_cases with ⟨error, ended⟩ | ⟨writable, phase | ⟨block, phase⟩⟩
  · simp only [startRound, ended, Script.run_pure]
    exact .refused error ended
  · rcases prior : world.view.chain.prior with _ | previousHash
    · simp only [startRound, writable, phase, Script.run_bind, Script.run_read_view,
        Chain.isInitialized, prior, Option.isSome_none, Bool.false_eq_true, if_false,
        Script.run_pure]
      exact .unanchored phase prior
    simp only [startRound, writable, phase, Script.run_bind, Script.run_read_view,
      Chain.isInitialized, prior, Option.isSome_some, if_true]
    have outcome := open_block_outcome platform assembler.settings round world
    generalize (openBlock _ _).run platform _ = result at outcome ⊢
    cases outcome with
    | unanchored missing => rw [prior] at missing; contradiction
    | overflow previousHash overflow prior next => exact .overflow overflow phase next
    | abandoned number previousHash fault state prior next left =>
        exact .halted number previousHash fault state phase prior next left
    | opened number previousHash writer created opened written prior next create start write =>
        exact .opened number previousHash writer created opened written phase prior next create
          start write
  · simp only [startRound, writable, phase, Script.run_pure]
    exact .continued block phase

inductive ItemWritten (platform : Platform σ) (assembler : Assembler) (item : Item)
    (world : World σ) : Except Overflow (Except StreamError Unit × Assembler) × World σ → Prop
  | refused (error : StreamError) (ended : assembler.checkWritable = .error error) :
      ItemWritten platform assembler item world (.ok (.error error, assembler), world)
  | managed (writable : assembler.checkWritable = .ok ()) (managed : item.isManaged = true) :
      ItemWritten platform assembler item world
        (.ok (.error (.invalidItem item.kind), assembler), world)
  | idle (phase : assembler.phase = .idle) (unmanaged : item.isManaged = false) :
      ItemWritten platform assembler item world (.ok (.error .noBlockOpen, assembler), world)
  | halted (block : OpenBlock) (fault : IoFault) (state : σ)
      (phase : assembler.phase = .assembling block) (unmanaged : item.isManaged = false)
      (call : platform.writeItem block.writer item.encode world.platform = (.error fault, state)) :
      ItemWritten platform assembler item world
        (.ok (.error (.writer block.number fault.message),
          assembler.halted (.writer block.number fault.message)),
          (world.setPlatform (platform.release block.writer state)).hideOpenBlock)
  | written (block : OpenBlock) (state : σ) (phase : assembler.phase = .assembling block)
      (unmanaged : item.isManaged = false)
      (call : platform.writeItem block.writer item.encode world.platform = (.ok (), state)) :
      ItemWritten platform assembler item world
        (.ok (.ok (), assembler.withBlock (block.add item)), (world.setPlatform state).addItem item)

theorem write_item_outcome (assembler : Assembler) (item : Item) (world : World σ) :
    ItemWritten platform assembler item world ((assembler.writeItem item).run platform world) := by
  rcases assembler.check_writable_cases with ⟨error, ended⟩ | ⟨writable, phases⟩
  · simp only [writeItem, ended, Script.run_pure]
    exact .refused error ended
  rcases managed : item.isManaged with _ | _
  · rcases phases with phase | ⟨block, phase⟩
    · simp only [writeItem, writable, managed, phase, Bool.false_eq_true, if_false,
        Script.run_pure]
      exact .idle phase managed
    simp only [writeItem, writable, managed, phase, Bool.false_eq_true, if_false, Script.run_bind]
    have appended := append_item_outcome platform block item world
    generalize (appendItem _ _).run platform _ = result at appended ⊢
    cases appended with
    | failed fault state call =>
        simp only [Script.run_bind, run_halt, Script.run_release, Script.run_pure]
        exact .halted block fault state phase managed call
    | written state call => exact .written block state phase managed call
  · simp only [writeItem, writable, managed, if_true, Script.run_pure]
    exact .managed writable managed

/-! ### Closing a block -/

/-- The next block of the chain is taken over. -/
theorem push_next {world : World σ} {block : UnprovenBlock WriterId} (linked : world.Linked)
    (next : world.view.chain.nextNumber = .ok block.number) :
    world.unproven.push block = .ok ⟨world.unproven.blocks ++ [block]⟩ := by
  rcases last : world.unproven.blocks.getLast? with _ | newest
  · simp only [UnprovenRun.push, last]
  · simp only [Chain.nextNumber, (linked newest last).1] at next
    simp only [UnprovenRun.push, last, next, if_true]

theorem append_next {world : World σ} {block : OpenBlock} (follows : world.Follows block)
    (hash : Digest) :
    world.view.chain.append block.number hash =
      .ok ((world.view.chain.history.push hash).1,
        ⟨(world.view.chain.history.push hash).2, some hash, some block.number⟩) := by
  simp [Chain.append, Chain.isInitialized, follows.prior, follows.next]

inductive Finished (platform : Platform σ) (block : OpenBlock) (round : Round) (world : World σ) :
    Except Overflow (Except StreamError ClosedBlock) × World σ → Prop
  | noBoundary (fault : IoFault) (state : σ)
      (write : platform.writeItem block.writer
        (boundary round (block.checkpoint world.view)).encode world.platform =
          (.error fault, state)) :
      Finished platform block round world
        (.ok (.error (.writer block.number fault.message)),
          world.setPlatform (platform.release block.writer state))
  | notSaved (error : StreamError) (written saved : σ)
      (write : platform.writeItem block.writer
        (boundary round (block.checkpoint world.view)).encode world.platform = (.ok (), written))
      (save : platform.save (block.checkpoint world.view) written = (.error error, saved)) :
      Finished platform block round world
        (.ok (.error error), (world.setPlatform (platform.release block.writer saved)).addItem
          (boundary round (block.checkpoint world.view)))
  | closed (written saved : σ)
      (write : platform.writeItem block.writer
        (boundary round (block.checkpoint world.view)).encode world.platform = (.ok (), written))
      (save : platform.save (block.checkpoint world.view) written = (.ok (), saved)) :
      Finished platform block round world
        (.ok (.ok (block.closed world.view round)), (world.setPlatform saved).close block)

/-- Closing a block in terms of what it leaves behind. -/
theorem run_finish_block {block : OpenBlock} {world : World σ} (follows : world.Follows block)
    (round : Round) :
    (finishBlock block round).run platform world =
      (do
        match ← appendItem block (boundary round (block.checkpoint world.view)) with
        | .error error =>
            Script.release block.writer
            return .error error
        | .ok written =>
            match ← Script.save (block.checkpoint world.view) with
            | .error error =>
                Script.release block.writer
                return .error error
            | .ok () =>
                Script.writeView (world.view.close block)
                match ← Ledger.submit (block.unproven world.view) with
                | .error error => return .error error
                | .ok () =>
                    Script.count .closed
                    return .ok { block.closed world.view round with
                      items := UInt64.ofNat written.items } : Script _).run platform world := by
  have hashed : world.view.chain.nextHash
      (Chain.steps block.input.value world.view.outputs.finish.1) =
        .ok (block.hash world.view) := by
    simp only [Chain.nextHash, follows.prior]
    rfl
  rw [finishBlock, Script.run_bind, Script.run_read_view]
  simp only [hashed, append_next follows, Script.ofFailure]
  rfl

/-- A closed block that the ledger did not take over, which needs a run of unproven blocks that
does not end right before it. -/
inductive NotTaken (platform : Platform σ) (block : OpenBlock) (round : Round) (world : World σ) :
    Except Overflow (Except StreamError ClosedBlock) × World σ → Prop
  | refused (error : StreamError) (written saved : σ)
      (write : platform.writeItem block.writer
        (boundary round (block.checkpoint world.view)).encode world.platform = (.ok (), written))
      (save : platform.save (block.checkpoint world.view) written = (.ok (), saved))
      (push : world.unproven.push (block.unproven world.view) = .error (.stream error)) :
      NotTaken platform block round world
        (.ok (.error error), (world.setPlatform (platform.release block.writer saved)).showClosed block)
  | overflow (overflow : Overflow) (written saved : σ)
      (write : platform.writeItem block.writer
        (boundary round (block.checkpoint world.view)).encode world.platform = (.ok (), written))
      (save : platform.save (block.checkpoint world.view) written = (.ok (), saved))
      (push : world.unproven.push (block.unproven world.view) = .error (.overflow overflow)) :
      NotTaken platform block round world
        (.error overflow, (world.setPlatform saved).showClosed block)

theorem finish_block_cases {block : OpenBlock} {world : World σ} (follows : world.Follows block)
    (round : Round) :
    Finished platform block round world ((finishBlock block round).run platform world) ∨
      NotTaken platform block round world ((finishBlock block round).run platform world) := by
  rw [run_finish_block platform follows, Script.run_bind]
  have appended := append_item_outcome platform block
    (boundary round (block.checkpoint world.view)) world
  generalize (appendItem _ _).run platform _ = result at appended ⊢
  cases appended with
  | failed fault state write =>
      simp only [Script.run_bind, Script.run_release, Script.run_pure]
      exact .inl (.noBoundary fault state write)
  | written written write =>
      rcases save : platform.save (block.checkpoint world.view) written with ⟨error | _, saved⟩
      · simp only [Script.run_bind, Script.run_save, World.addItem, World.setPlatform, save,
          Script.run_release, Script.run_pure]
        exact .inl (.notSaved error written saved write save)
      simp only [Script.run_bind, Script.run_save, World.addItem, World.setPlatform, save,
        Script.run_write_view]
      have submitted := Ledger.submit_outcome platform (block.unproven world.view)
        ((world.setPlatform saved).showClosed block)
      simp only [World.showClosed, World.setPlatform] at submitted
      generalize (Ledger.submit _).run platform _ = result at submitted ⊢
      cases submitted with
      | overflow overflow push => exact .inr (.overflow overflow written saved write save push)
      | refused error push =>
          simp only [Script.run_pure]
          exact .inr (.refused error written saved write save push)
      | accepted unproven pushed =>
          have taken := UnprovenRun.push_ok pushed
          subst taken
          simp only [Script.run_count, Script.run_bind, Script.run_pure]
          exact .inl (.closed written saved write save)

theorem NotTaken.not_linked {block : OpenBlock} {round : Round} {world : World σ}
    {result : Except Overflow (Except StreamError ClosedBlock) × World σ}
    (left : NotTaken platform block round world result) (follows : world.Follows block) :
    ¬ world.Linked := by
  intro linked
  have pushed : world.unproven.push (block.unproven world.view) = _ :=
    push_next linked follows.next
  cases left with
  | refused error written saved write save push => simp [pushed] at push
  | overflow overflow written saved write save push => simp [pushed] at push

/-- What holds between an assembler and its world from the start. -/
structure Coherent (assembler : Assembler) (world : World σ) : Prop where
  linked : world.Linked
  follows : ∀ block, assembler.phase = .assembling block → world.Follows block

/-- The phase after a block was closed. -/
def phaseAfter (closed : ClosedBlock) : Phase :=
  if closed.frozen then .frozen closed.number else .idle

theorem phase_after_ne_assembling (closed : ClosedBlock) (block : OpenBlock) :
    phaseAfter closed ≠ .assembling block := by
  unfold phaseAfter
  split <;> simp

inductive RoundEnded (platform : Platform σ) (assembler : Assembler) (round : Round)
    (world : World σ) :
    Except Overflow (Except StreamError (Option ClosedBlock) × Assembler) × World σ → Prop
  | refused (error : StreamError) (ended : assembler.checkWritable = .error error) :
      RoundEnded platform assembler round world (.ok (.error error, assembler), world)
  | idle (phase : assembler.phase = .idle) :
      RoundEnded platform assembler round world (.ok (.error .noBlockOpen, assembler), world)
  | overflow (block : OpenBlock) (overflow : Overflow)
      (phase : assembler.phase = .assembling block)
      (counted : addRound block = .error overflow) :
      RoundEnded platform assembler round world (.error overflow, world)
  | continued (block counted : OpenBlock) (phase : assembler.phase = .assembling block)
      (added : addRound block = .ok counted)
      (early : counted.rounds < assembler.settings.roundsPerBlock ∧ ¬ round.freeze) :
      RoundEnded platform assembler round world
        (.ok (.ok none, assembler.withBlock counted), world)
  | halted (block counted : OpenBlock) (error : StreamError) (after : World σ)
      (phase : assembler.phase = .assembling block)
      (added : addRound block = .ok counted)
      (due : ¬ (counted.rounds < assembler.settings.roundsPerBlock ∧ ¬ round.freeze))
      (finished : Finished platform counted round world (.ok (.error error), after)) :
      RoundEnded platform assembler round world
        (.ok (.error error, assembler.halted error), after.hideOpenBlock)
  | closed (block counted : OpenBlock) (closed : ClosedBlock) (after : World σ)
      (phase : assembler.phase = .assembling block)
      (added : addRound block = .ok counted)
      (due : ¬ (counted.rounds < assembler.settings.roundsPerBlock ∧ ¬ round.freeze))
      (finished : Finished platform counted round world (.ok (.ok closed), after)) :
      RoundEnded platform assembler round world
        (.ok (.ok (some closed), ⟨assembler.settings, phaseAfter closed, some closed.time⟩), after)

theorem add_round_ok {block counted : OpenBlock} (added : addRound block = .ok counted) :
    counted = { block with rounds := block.rounds + 1 } ∧ block.rounds.toNat + 1 < 2 ^ 32 := by
  simp only [addRound] at added
  split at added
  · rename_i bounded
    cases added
    exact ⟨rfl, bounded⟩
  · contradiction

theorem follows_of_add_round {world : World σ} {block counted : OpenBlock}
    (added : addRound block = .ok counted) (follows : world.Follows block) :
    world.Follows counted := by
  obtain ⟨rfl, _⟩ := add_round_ok added
  exact ⟨follows.prior, follows.next⟩

/-- The last round of a block that the ledger did not take over. -/
inductive RoundNotTaken (platform : Platform σ) (assembler : Assembler) (round : Round)
    (world : World σ) :
    Except Overflow (Except StreamError (Option ClosedBlock) × Assembler) × World σ → Prop
  | refused (block counted : OpenBlock) (error : StreamError) (after : World σ)
      (phase : assembler.phase = .assembling block)
      (added : addRound block = .ok counted)
      (left : NotTaken platform counted round world (.ok (.error error), after)) :
      RoundNotTaken platform assembler round world
        (.ok (.error error, assembler.halted error), after.hideOpenBlock)
  | overflow (block counted : OpenBlock) (overflow : Overflow) (after : World σ)
      (phase : assembler.phase = .assembling block)
      (added : addRound block = .ok counted)
      (left : NotTaken platform counted round world (.error overflow, after)) :
      RoundNotTaken platform assembler round world (.error overflow, after)

theorem end_round_cases {assembler : Assembler} {world : World σ}
    (follows : ∀ block, assembler.phase = .assembling block → world.Follows block)
    (round : Round) :
    RoundEnded platform assembler round world ((assembler.endRound round).run platform world) ∨
      RoundNotTaken platform assembler round world
        ((assembler.endRound round).run platform world) := by
  rcases assembler.check_writable_cases with ⟨error, ended⟩ | ⟨writable, phase | ⟨block, phase⟩⟩
  · simp only [endRound, ended, Script.run_pure]
    exact .inl (.refused error ended)
  · simp only [endRound, writable, phase, Script.run_pure]
    exact .inl (.idle phase)
  rcases added : addRound block with overflow | counted
  · simp only [endRound, writable, phase, added, Script.ofOverflow, Script.run_bind,
      Script.run_stop]
    exact .inl (.overflow block overflow phase added)
  simp only [endRound, writable, phase, added, Script.ofOverflow, Script.run_bind, Script.run]
  by_cases early : counted.rounds < assembler.settings.roundsPerBlock ∧ ¬ round.freeze
  · rw [if_pos early, Script.run_pure]
    exact .inl (.continued block counted phase added early)
  rw [if_neg early, Script.run_bind]
  have outcome := finish_block_cases platform
    (follows_of_add_round added (follows block phase)) round
  generalize (finishBlock counted round).run platform world = result at outcome ⊢
  rcases outcome with finished | left
  · have finished' := finished
    cases finished with
    | noBoundary fault state write =>
        simp only [run_halt]
        exact .inl (.halted block counted _ _ phase added early finished')
    | notSaved error written saved write save =>
        simp only [run_halt]
        exact .inl (.halted block counted _ _ phase added early finished')
    | closed written saved write save =>
        simp only [Script.run_pure]
        exact .inl (.closed block counted _ _ phase added early finished')
  · have left' := left
    cases left with
    | refused error written saved write save push =>
        simp only [run_halt]
        exact .inr (.refused block counted error _ phase added left')
    | overflow overflow written saved write save push =>
        exact .inr (.overflow block counted overflow _ phase added left')

/-- A coherent stream hands over every block it closes, and closing never stops. -/
theorem end_round_outcome {assembler : Assembler} {world : World σ}
    (coherent : assembler.Coherent world) (round : Round) :
    RoundEnded platform assembler round world
      ((assembler.endRound round).run platform world) := by
  rcases end_round_cases platform coherent.follows round with ended | notTaken
  · exact ended
  generalize (assembler.endRound round).run platform world = result at notTaken ⊢
  cases notTaken with
  | refused block counted error after phase added left =>
      have follows := follows_of_add_round added (coherent.follows block phase)
      exact absurd coherent.linked (left.not_linked platform follows)
  | overflow block counted overflow after phase added left =>
      have follows := follows_of_add_round added (coherent.follows block phase)
      exact absurd coherent.linked (left.not_linked platform follows)

end Assembler
end ProvenBlocks
