import ProvenBlocks.Proofs.NodeRuns
import ProvenBlocks.Proofs.Tallies
import ProvenBlocks.Proofs.Feeds

/-!
What the summary of a run tells. The hash in it is that of the last closed block, and so is the
number, unless the last round has left a block open: then the number is that of the open block.
-/

namespace ProvenBlocks

/-! ### Sessions -/

/-- The last one of the closed blocks, with its hash, or else the last block before a session, as
its first view shows it. -/
def View.lastClosed (first : View) (closed : List ClosedBlock) : Option UInt64 × Option Digest :=
  match closed.getLast? with
  | none => (first.chain.lastNumber, first.chain.lastHash)
  | some block => (some block.number, some block.hash)

/-- Counters and view tell of the blocks that callers know closed, and of the open one. -/
structure Session.Tells {σ : Type} (first : View) (session : Session (Journal σ)) : Prop where
  keeps : session.Keeps
  saved : (saves session.world.platform.calls).length = session.production.blocks.length
  last : (session.world.view.chain.lastNumber, session.world.view.chain.lastHash) =
    first.lastClosed session.production.blocks
  shown : session.world.view.openBlock = session.assembler.openNumber

namespace Session

variable {σ : Type} {platform : Platform σ} {first : View} {session : Session (Journal σ)}

theorem tells_fresh {settings : StreamSettings} {startup : Startup} {assembler : Assembler}
    (started : Assembler.start settings startup = .ok (assembler, first)) (state : σ) :
    (fresh assembler first (⟨[], state⟩ : Journal σ)).Tells first where
  keeps := keeps_fresh (Assembler.start_idle started) first state
  saved := rfl
  last := rfl
  shown := by
    obtain ⟨_, _, rfl, rfl⟩ := Assembler.start_ok started
    rfl

theorem Tells.step (tells : session.Tells first) (operation : Operation) :
    (session.step platform.journaled operation).Tells first := by
  obtain ⟨events, moved, history⟩ :=
    step_moves platform.journaled tells.keeps.coherent operation
  have shown := shown_of_moved moved tells.shown
  have observed := production_of_history history
  cases may_close_of_moved moved with
  | kept chain history seed saved untold =>
      have blocks : (session.step platform.journaled operation).production.blocks =
          session.production.blocks := by
        rw [observed]
        exact congrArg (List.map Prod.fst) (untold session.production)
      refine ⟨tells.keeps.step operation, ?_, ?_, shown⟩
      · rw [saved, blocks, tells.saved]
      · rw [chain, blocks, tells.last]
  | closed round opened block phase added visible saved told =>
      have blocks : (session.step platform.journaled operation).production.blocks =
          session.production.blocks ++ [block.closed session.world.view round] := by
        rw [observed, told, List.foldl_cons, List.foldl_nil, Production.blocks_observe]
        rfl
      refine ⟨tells.keeps.step operation, ?_, ?_, shown⟩
      · rw [saved, blocks, List.length_append, List.length_append, tells.saved]
        rfl
      · rw [visible, blocks, View.lastClosed, List.getLast?_concat]
        exact congrArg (Prod.mk _)
          (session.world.view.chain.last_hash_extended block.number (block.hash session.world.view))

theorem Tells.run (tells : session.Tells first) (operations : List Operation) :
    (session.run platform.journaled operations).Tells first := by
  induction operations generalizing session with
  | nil => exact tells
  | cons operation later inductive_hypothesis =>
      exact inductive_hypothesis (tells.step operation)

/-- The counter of a station that plays the session counts the blocks closed. -/
theorem Tells.closed_count {station : Station} {session : Session (Journal Depot)}
    (tells : session.Tells first) (plays : station.Plays session) :
    station.world.counters.closed = .ofNat session.production.blocks.length := by
  have counters : station.world.counters = session.world.counters :=
    congrArg World.counters plays.world
  rw [counters, tells.keeps.tally.counters.closed, tells.saved]

/-- The block that is open has the number after that of the last closed one. -/
theorem Tells.open_number (tells : session.Tells first) {number : UInt64}
    (opened : session.assembler.openNumber = some number) :
    number.toNat = session.world.view.chain.height := by
  unfold Assembler.openNumber at opened
  split at opened
  · rename_i block phase
    cases opened
    exact Chain.next_number_height (tells.keeps.coherent.follows block phase).next
  · cases opened

end Session

/-! ### Nodes -/

/-- The last one of the closed blocks, or else the last block before the checkpoint was saved. A
checkpoint may have lost the hash of its block. -/
def Checkpoint.lastClosed (checkpoint : Checkpoint) (closed : List ClosedBlock) :
    Option (UInt64 × Option Digest) :=
  match closed.getLast? with
  | none => checkpoint.blockNumber.map fun number => (number, checkpoint.lastHash)
  | some block => some (block.number, some block.hash)

/-- A view that was restored tells of the last block what the checkpoint does. -/
theorem Checkpoint.last_closed_view (checkpoint : Checkpoint) (closed : List ClosedBlock) :
    checkpoint.view.lastClosed closed =
      ((checkpoint.lastClosed closed).map Prod.fst,
        (checkpoint.lastClosed closed).bind Prod.snd) := by
  unfold View.lastClosed lastClosed
  rcases closed.getLast? with _ | block
  · rcases last : checkpoint.blockNumber with _ | number
    · simp only [Chain.lastHash, view_chain_lastNumber, last]
      rfl
    · have lastNumber : checkpoint.view.chain.lastNumber = some number := last
      have newest : checkpoint.view.chain.hashOf number = checkpoint.lastHash := by
        rw [Chain.hash_of_back lastNumber (Nat.le_refl _), Nat.sub_self, ← List.head?_eq_getElem?,
          List.head?_reverse]
        exact Window.of_list_newest _ _
      simp only [Chain.lastHash, lastNumber, Option.bind_some, newest, Option.map_some]
  · rfl

namespace Node

variable {settings : StreamSettings} {feed : FeedSettings} {tree ready : FileTree}
  {node later : Node} {stored : Option Checkpoint} {clock : Instant} {generator : Generator}
  {summary : RunSummary}

theorem start_ok (started : Node.start settings feed tree = (.ok node, ready)) :
    node.feed = feed ∧ node.rounds = 0 := by
  unfold Node.start at started
  split at started
  · cases started
  · split at started
    · cases started
    · dsimp only at started
      split at started
      · cases started
      · cases started
        exact ⟨rfl, rfl⟩

/-- A run that comes to its end leaves the station of a session that tells of its rounds. -/
theorem run_tells (loaded : StateFile.load tree settings.statePath = .ok stored)
    (started : Node.start settings feed tree = (.ok node, ready))
    (ran : node.run clock generator = (.ok summary, later)) :
    let takes := node.takes clock generator
    ∃ session : Session (Journal Depot), session.Tells (stored.getD .empty).view ∧
      later.station.Plays session ∧ summary = later.summary ∧ later.rounds = takes.length ∧
      session.production.blocks = takes.filterMap Take.closed? ∧
      session.assembler.openNumber.isSome = leavesOpen false takes := by
  intro takes
  obtain ⟨found, assembler, view, again, begun, _, plays⟩ := Node.start_plays started
  cases loaded.symm.trans again
  have tells := Session.tells_fresh begun node.station.depot
  obtain ⟨_, _, rfl, rfl⟩ := Checkpoint.start_stored_ok begun
  obtain ⟨told, operations, played⟩ := run_within_played plays tells.keeps.coherent ran
  have rounds := played.rounds
  rw [(start_ok started).2, Nat.zero_add] at rounds
  exact ⟨_, tells.run operations, played.plays, told, rounds, played.closed, played.opens⟩

/-- The summary counts the rounds and the blocks closed, and has the hash of the last closed block.
Its number is that of this block if the last round closed a block, and else the next one. -/
theorem summary_tells_last_block
    (loaded : StateFile.load tree settings.statePath = .ok stored)
    (started : Node.start settings feed tree = (.ok node, ready))
    (ran : node.run clock generator = (.ok summary, later)) :
    let takes := node.takes clock generator
    let last := (stored.getD .empty).lastClosed (takes.filterMap Take.closed?)
    summary.rounds = takes.length ∧
      summary.closedBlocks = .ofNat (takes.filterMap Take.closed?).length ∧
      summary.lastHash = last.bind Prod.snd ∧
      (leavesOpen false takes = false → summary.lastNumber = last.map Prod.fst) ∧
      (leavesOpen false takes = true → ∃ number, summary.lastNumber = some number ∧
        number.toNat = (last.map fun block => block.1.toNat + 1).getD 0) := by
  intro takes last
  obtain ⟨session, tells, plays, rfl, rounds, blocks, opens⟩ := run_tells loaded started ran
  have view : later.station.world.view = session.world.view := congrArg World.view plays.world
  have told : (session.world.view.chain.lastNumber, session.world.view.chain.lastHash) =
      (last.map Prod.fst, last.bind Prod.snd) := by
    rw [tells.last, blocks]
    exact Checkpoint.last_closed_view _ _
  obtain ⟨number, hash⟩ := Prod.mk.inj told
  have current : later.summary.lastNumber =
      session.assembler.openNumber.or (last.map Prod.fst) := by
    rw [← tells.shown, ← number]
    exact congrArg View.currentNumber view
  refine ⟨rounds, ?_, ?_, ?_, ?_⟩
  · rw [← blocks]
    exact tells.closed_count plays
  · rw [← hash]
    exact congrArg (fun shown : View => shown.chain.lastHash) view
  · intro closed
    rw [closed, Option.isSome_eq_false_iff, Option.isNone_iff_eq_none] at opens
    rw [current, opens]
    rfl
  · intro open_
    rw [open_] at opens
    obtain ⟨next, opened⟩ := Option.isSome_iff_exists.mp opens
    have height := tells.open_number opened
    refine ⟨next, ?_, height.trans ?_⟩
    · rw [current, opened]
      rfl
    · rw [Chain.height, number]
      cases last <;> rfl

/-! ### A block that is left open -/

/-- A node without any files that runs from second zero on. -/
def firstRun (settings : StreamSettings) (feed : FeedSettings) (generator : Generator) :
    Option (Node × RunSummary × Node) :=
  match Node.start settings feed .empty with
  | (.ok node, _) =>
      match node.run ⟨0, 0⟩ generator with
      | (.ok summary, later) => some (node, summary, later)
      | (.error _, _) => none
  | (.error _, _) => none

theorem first_run_ran (ran : firstRun settings feed generator = some (node, summary, later)) :
    (∃ ready, Node.start settings feed .empty = (.ok node, ready)) ∧
      node.run ⟨0, 0⟩ generator = (.ok summary, later) := by
  unfold firstRun at ran
  rcases started : Node.start settings feed .empty with ⟨fault | begun, ready⟩
  · rw [started] at ran
    cases ran
  · rw [started] at ran
    dsimp only at ran
    rcases finished : begun.run ⟨0, 0⟩ generator with ⟨fault | told, ended⟩
    · rw [finished] at ran
      cases ran
    · rw [finished] at ran
      cases ran
      exact ⟨⟨ready, rfl⟩, finished⟩

def twoRoundBlocks : StreamSettings := { StreamSettings.default with roundsPerBlock := 2 }

/-- What is evaluated of the first run of a node. -/
theorem first_run_evaluated (feed : FeedSettings) (generator : Generator)
    (holds : Node × RunSummary × Node → Prop) [DecidablePred holds]
    (evaluated : (firstRun twoRoundBlocks feed generator).any (fun run => holds run) = true) :
    ∃ node ready summary later,
      StateFile.load .empty twoRoundBlocks.statePath = .ok none ∧
      Node.start twoRoundBlocks feed .empty = (.ok node, ready) ∧
      node.run ⟨0, 0⟩ generator = (.ok summary, later) ∧ holds (node, summary, later) := by
  have nothing : (StateFile.load .empty twoRoundBlocks.statePath).toOption = some none := by
    decide +kernel
  obtain ⟨⟨node, summary, later⟩, found, told⟩ := (Option.any_eq_true _ _).mp evaluated
  obtain ⟨⟨ready, started⟩, ran⟩ := first_run_ran found
  rcases loaded : StateFile.load .empty twoRoundBlocks.statePath with fault | stored
  · rw [loaded] at nothing
    cases nothing
  · rw [loaded] at nothing
    cases nothing
    exact ⟨node, ready, summary, later, rfl, started, ran, of_decide_eq_true told⟩

/-- Three rounds, two in a block, with a transaction in each round. -/
theorem summary_after_three_rounds : ∃ node ready summary later,
    StateFile.load .empty twoRoundBlocks.statePath = .ok none ∧
    Node.start twoRoundBlocks ⟨3, 1, none, some 15638⟩ .empty = (.ok node, ready) ∧
    node.run ⟨0, 0⟩ .threeTransactions = (.ok summary, later) ∧
    let takes := node.takes ⟨0, 0⟩ .threeTransactions
    let last := Checkpoint.empty.lastClosed (takes.filterMap Take.closed?)
    summary.rounds = takes.length ∧
      summary.closedBlocks = .ofNat (takes.filterMap Take.closed?).length ∧
      summary.lastHash = last.bind Prod.snd ∧
      (leavesOpen false takes = false → summary.lastNumber = last.map Prod.fst) ∧
      (leavesOpen false takes = true → ∃ number, summary.lastNumber = some number ∧
        number.toNat = (last.map fun block => block.1.toNat + 1).getD 0) := by
  obtain ⟨node, ready, summary, later, loaded, started, ran, _⟩ :=
    first_run_evaluated ⟨3, 1, none, some 15638⟩ .threeTransactions (fun _ => True)
      (by decide +kernel)
  exact ⟨node, ready, summary, later, loaded, started, ran,
    summary_tells_last_block loaded started ran⟩

/-- The only closed block is block 0. The summary has its hash, but the number of the open block. -/
theorem summary_numbers_open_block : ∃ node ready summary later,
    Node.start twoRoundBlocks ⟨3, 0, none, none⟩ .empty = (.ok node, ready) ∧
    node.run ⟨0, 0⟩ .threeTransactions = (.ok summary, later) ∧
    ((node.takes ⟨0, 0⟩ .threeTransactions).filterMap Take.closed?).map
      (fun block => (block.number, some block.hash)) = [(0, summary.lastHash)] ∧
    summary.lastNumber = some 1 := by
  obtain ⟨node, ready, summary, later, _, told⟩ :=
    first_run_evaluated ⟨3, 0, none, none⟩ .threeTransactions (fun run =>
      ((run.1.takes ⟨0, 0⟩ .threeTransactions).filterMap Take.closed?).map
          (fun block => (block.number, some block.hash)) = [(0, run.2.1.lastHash)] ∧
        run.2.1.lastNumber = some 1) (by decide +kernel)
  exact ⟨node, ready, summary, later, told⟩

end Node
end ProvenBlocks
