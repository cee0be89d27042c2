import ProvenBlocks.Proofs.Assembly
import ProvenBlocks.Proofs.Resolution
import ProvenBlocks.Signature

/-!
Sessions: one assembler with its ledger from the start on. Calls of consensus and signatures come
in any order, every answer is kept in a history, and an overflow stops the assembler but not the
ledger. Each step changes assembler and world in one of a few ways.
-/

namespace ProvenBlocks

inductive Operation where
  | startRound (round : Round)
  | writeItem (item : Item)
  | endRound (round : Round)
  | sign (signature : Signature)

/-- A call of consensus on the assembler. -/
inductive Demand where
  | startRound (round : Round)
  | writeItem (item : Item)
  | endRound (round : Round)

def Demand.operation : Demand → Operation
  | .startRound round => .startRound round
  | .writeItem item => .writeItem item
  | .endRound round => .endRound round

/-- An operation with its answer; for a signature also the blocks it took from the run. -/
inductive Event where
  | roundStarted (round : Round) (answer : Except StreamError Unit)
  | itemWritten (item : Item) (answer : Except StreamError Unit)
  | roundEnded (round : Round) (answer : Except StreamError (Option ClosedBlock))
  | signed (signature : Signature) (resolved : List (ResolvedBlock WriterId))
      (answer : Except StreamError (List FinalizedBlock))

/-- What the callers of an assembler have seen: the items accepted since a block was last closed,
and every closed block with the items accepted for it. -/
structure Production where
  taken : List Item
  closed : List (ClosedBlock × List Item)

namespace Production

def empty : Production := ⟨[], []⟩

def observe (production : Production) : Event → Production
  | .itemWritten item (.ok ()) => { production with taken := production.taken ++ [item] }
  | .roundEnded _ (.ok (some block)) =>
      ⟨[], production.closed ++ [(block, production.taken)]⟩
  | _ => production

def ofHistory (history : List Event) : Production := history.foldl observe empty

theorem of_history_append (history more : List Event) :
    ofHistory (history ++ more) = more.foldl observe (ofHistory history) :=
  List.foldl_append

end Production

/-- Neither an item, nor a closed block, nor a signature. -/
def Event.IsQuiet : Event → Prop
  | .itemWritten _ (.ok ()) | .roundEnded _ (.ok (some _)) | .signed _ _ _ => False
  | _ => True

structure Session (σ : Type) where
  assembler : Assembler
  world : World σ
  history : List Event
  stopped : Option Overflow

namespace Session

variable {σ : Type}

/-- An empty ledger and nothing produced yet. -/
def fresh (assembler : Assembler) (view : View) (platform : σ) : Session σ :=
  ⟨assembler, ⟨view, .empty, .zero, [], platform⟩, [], none⟩

def assemble {α : Type} (session : Session σ) (platform : Platform σ)
    (work : Script (Except StreamError α × Assembler)) (event : Except StreamError α → Event) :
    Session σ :=
  match session.stopped with
  | some _ => session
  | none =>
      match work.run platform session.world with
      | (.ok (answer, assembler), world) =>
          ⟨assembler, world, session.history ++ [event answer], none⟩
      | (.error overflow, world) => { session with world := world, stopped := some overflow }

def sign (session : Session σ) (platform : Platform σ) (signature : Signature) : Session σ :=
  let resolved := (session.world.unproven.resolve signature.message).1
  match (Ledger.applySignature signature.message signature.content).run platform session.world with
  | (.ok answer, world) =>
      { session with
        world := world
        history := session.history ++ [.signed signature resolved answer] }
  | (.error overflow, world) => { session with world := world, stopped := some overflow }

def step (platform : Platform σ) (session : Session σ) : Operation → Session σ
  | .startRound round =>
      session.assemble platform (session.assembler.startRound round) (.roundStarted round)
  | .writeItem item =>
      session.assemble platform (session.assembler.writeItem item) (.itemWritten item)
  | .endRound round =>
      session.assemble platform (session.assembler.endRound round) (.roundEnded round)
  | .sign signature => session.sign platform signature

def run (platform : Platform σ) (session : Session σ) (operations : List Operation) : Session σ :=
  operations.foldl (step platform) session

def production (session : Session σ) : Production := .ofHistory session.history

theorem production_of_history {before after : Session σ} {events : List Event}
    (history : after.history = before.history ++ events) :
    after.production = events.foldl Production.observe before.production := by
  rw [production, history, Production.of_history_append]
  rfl

end Session

/-! ### What a step can do -/

open Assembler in
/-- A step from an assembler and its world, with the events it adds to the history. -/
inductive Moved {σ : Type} (platform : Platform σ) (assembler : Assembler) (world : World σ) :
    List Event → Assembler → World σ → Prop
  | quiet (events : List Event) (quiet : ∀ event ∈ events, event.IsQuiet) :
      Moved platform assembler world events assembler world
  | opened (round : Round) (number : UInt64) (previousHash : Digest) (writer : WriterId)
      (created opened written : σ) (phase : assembler.phase = .idle)
      (prior : world.view.chain.prior = some previousHash)
      (next : world.view.chain.nextNumber = .ok number)
      (create : platform.create world.platform = (.ok writer, created))
      (start : platform.openBlock writer number created = (.ok (), opened))
      (write : platform.writeItem writer
        (header assembler.settings number previousHash round.time).encode opened =
          (.ok (), written)) :
      Moved platform assembler world [.roundStarted round (.ok ())]
        (assembler.withBlock (fresh number previousHash round writer))
        ((world.setPlatform written).showOpenBlock number)
  | abandoned (round : Round) (number : UInt64) (previousHash : Digest) (fault : IoFault)
      (state : σ) (event : Event) (quiet : event.IsQuiet) (phase : assembler.phase = .idle)
      (prior : world.view.chain.prior = some previousHash)
      (next : world.view.chain.nextNumber = .ok number)
      (left : Abandoned platform number
        (header assembler.settings number previousHash round.time) world.platform fault state) :
      Moved platform assembler world [event]
        (assembler.halted (.writer number fault.message))
        (world.setPlatform state).hideOpenBlock
  | written (block : OpenBlock) (item : Item) (state : σ)
      (phase : assembler.phase = .assembling block) (unmanaged : item.isManaged = false)
      (call : platform.writeItem block.writer item.encode world.platform = (.ok (), state)) :
      Moved platform assembler world [.itemWritten item (.ok ())]
        (assembler.withBlock (block.add item)) ((world.setPlatform state).addItem item)
  | notWritten (block : OpenBlock) (item : Item) (fault : IoFault) (state : σ) (event : Event)
      (quiet : event.IsQuiet) (phase : assembler.phase = .assembling block)
      (call : platform.writeItem block.writer item.encode world.platform = (.error fault, state))
      (kind : item.isManaged = false ∨
        ∃ round, item = boundary round (block.checkpoint world.view)) :
      Moved platform assembler world [event]
        (assembler.halted (.writer block.number fault.message))
        (world.setPlatform (platform.release block.writer state)).hideOpenBlock
  | counted (round : Round) (block counted : OpenBlock)
      (phase : assembler.phase = .assembling block) (added : addRound block = .ok counted)
      (early : counted.rounds < assembler.settings.roundsPerBlock ∧ ¬ round.freeze) :
      Moved platform assembler world [.roundEnded round (.ok none)]
        (assembler.withBlock counted) world
  | notSaved (round : Round) (block counted : OpenBlock) (error : StreamError) (written saved : σ)
      (event : Event) (quiet : event.IsQuiet) (phase : assembler.phase = .assembling block)
      (added : addRound block = .ok counted)
      (due : ¬ (counted.rounds < assembler.settings.roundsPerBlock ∧ ¬ round.freeze))
      (write : platform.writeItem counted.writer
        (boundary round (counted.checkpoint world.view)).encode world.platform = (.ok (), written))
      (save : platform.save (counted.checkpoint world.view) written = (.error error, saved)) :
      Moved platform assembler world [event] (assembler.halted error)
        ((world.setPlatform (platform.release counted.writer saved)).addItem
          (boundary round (counted.checkpoint world.view))).hideOpenBlock
  | closed (round : Round) (block counted : OpenBlock) (written saved : σ)
      (phase : assembler.phase = .assembling block) (added : addRound block = .ok counted)
      (due : ¬ (counted.rounds < assembler.settings.roundsPerBlock ∧ ¬ round.freeze))
      (write : platform.writeItem counted.writer
        (boundary round (counted.checkpoint world.view)).encode world.platform = (.ok (), written))
      (save : platform.save (counted.checkpoint world.view) written = (.ok (), saved)) :
      Moved platform assembler world
        [.roundEnded round (.ok (some (counted.closed world.view round)))]
        ⟨assembler.settings, phaseAfter (counted.closed world.view round), some counted.time⟩
        ((world.setPlatform saved).close counted)
  | signed (signature : Signature) (answer : Except StreamError (List FinalizedBlock))
      (after : World σ)
      (applied : Ledger.Applied platform signature.message signature.content world
        (.ok answer, after)) :
      Moved platform assembler world
        [.signed signature (world.unproven.resolve signature.message).1 answer] assembler after

namespace Assembler

variable {σ : Type} {platform : Platform σ}

/-- A suffix of the run that is not empty ends as the run ends. -/
theorem linked_of_resolve {world after : World σ} (linked : world.Linked)
    (view : after.view = world.view)
    (suffix : after.unproven.blocks <:+ world.unproven.blocks) : after.Linked := by
  obtain ⟨before, split⟩ := suffix
  intro newest last
  rw [view]
  apply linked newest
  rw [← split, List.getLast?_append, last]
  rfl

theorem coherent_fresh {assembler : Assembler} (idle : assembler.phase = .idle) (view : View)
    (state : σ) : assembler.Coherent (Session.fresh assembler view state).world :=
  ⟨(fun newest last => by cases last), (fun block phase => by cases idle.symm.trans phase)⟩

/-- Every step keeps the newest unproven block and the open block in line with the chain. -/
theorem coherent_of_moved {assembler next : Assembler} {world after : World σ}
    {events : List Event} (coherent : assembler.Coherent world)
    (moved : Moved platform assembler world events next after) : next.Coherent after := by
  have linked := coherent.linked
  cases moved with
  | quiet events quiet => exact coherent
  | opened round number previousHash writer created opened written phase prior next create start
      write =>
      refine ⟨linked, fun block open_ => ?_⟩
      cases open_
      exact ⟨prior, next⟩
  | abandoned round number previousHash fault state event quiet phase prior next left =>
      exact ⟨linked, fun block open_ => by cases open_⟩
  | written block item state phase unmanaged call =>
      have follows := coherent.follows block phase
      refine ⟨fun newest last => by simpa using linked newest last, fun block open_ => ?_⟩
      cases open_
      exact ⟨by simpa using follows.prior, by simpa using follows.next⟩
  | notWritten block item fault state event quiet phase call kind =>
      exact ⟨linked, fun block open_ => by cases open_⟩
  | counted round block counted phase added early =>
      refine ⟨linked, fun open_ same => ?_⟩
      cases same
      exact follows_of_add_round added (coherent.follows block phase)
  | notSaved round block counted error written saved event quiet phase added due write save =>
      exact ⟨fun newest last => by simpa using linked newest last,
        fun block open_ => by cases open_⟩
  | closed round block counted written saved phase added due write save =>
      refine ⟨fun newest last => ?_, fun block open_ => ?_⟩
      · simp only [World.close_unproven_blocks, List.getLast?_concat, Option.some.injEq] at last
        subst last
        exact ⟨rfl, rfl⟩
      · exact absurd open_ (phase_after_ne_assembling _ _)
  | signed signature answer after applied =>
      have kept : after.view = world.view ∧
          after.unproven = (world.unproven.resolve signature.message).2 := by
        cases applied <;> exact ⟨rfl, rfl⟩
      refine ⟨linked_of_resolve linked kept.1 ?_, fun block phase => ?_⟩
      · rw [kept.2]
        exact UnprovenRun.resolve_suffix world.unproven signature.message
      · have follows := coherent.follows block phase
        exact ⟨kept.1 ▸ follows.prior, kept.1 ▸ follows.next⟩

end Assembler

namespace Session

variable {σ : Type} {platform : Platform σ}

/-- The session after some of the ways to move. -/
def MovesTo (platform : Platform σ) (before after : Session σ) : Prop :=
  ∃ events, Moved platform before.assembler before.world events after.assembler after.world ∧
    after.history = before.history ++ events

theorem moves_to_self (session : Session σ) : MovesTo platform session session :=
  ⟨[], .quiet [] (by simp), by simp⟩

/-- An overflow leaves everything but the mark that it happened. -/
theorem moves_to_stopped (session : Session σ) (overflow : Overflow) :
    MovesTo platform session { session with stopped := some overflow } :=
  ⟨[], .quiet [] (by simp), by simp⟩

/-- An answer that changes nothing. -/
theorem moves_quietly (session : Session σ) {event : Event} (quiet : event.IsQuiet) :
    MovesTo platform session
      ⟨session.assembler, session.world, session.history ++ [event], none⟩ :=
  ⟨[event], .quiet [event] (by simpa using quiet), rfl⟩

theorem start_round_moves (session : Session σ) (round : Round) :
    MovesTo platform session (session.step platform (.startRound round)) := by
  simp only [step, assemble]
  rcases session.stopped with _ | overflow
  · have outcome := Assembler.start_round_outcome platform session.assembler round
      session.world
    generalize (Assembler.startRound _ _).run platform _ = result at outcome ⊢
    cases outcome with
    | refused error ended => exact moves_quietly session trivial
    | continued block phase => exact moves_quietly session trivial
    | unanchored phase prior => exact moves_quietly session trivial
    | overflow overflow phase next => exact moves_to_stopped session overflow
    | halted number previousHash fault state phase prior next left =>
        exact ⟨_, .abandoned round number previousHash fault state _ (by trivial) phase prior next
          left, rfl⟩
    | opened number previousHash writer created opened written phase prior next create start
        write =>
        exact ⟨_, .opened round number previousHash writer created opened written phase prior next
          create start write, rfl⟩
  · exact moves_to_self session

theorem write_item_moves (session : Session σ) (item : Item) :
    MovesTo platform session (session.step platform (.writeItem item)) := by
  simp only [step, assemble]
  rcases session.stopped with _ | overflow
  · have outcome := Assembler.write_item_outcome platform session.assembler item
      session.world
    generalize (Assembler.writeItem _ _).run platform _ = result at outcome ⊢
    cases outcome with
    | refused error ended => exact moves_quietly session trivial
    | managed writable managed => exact moves_quietly session trivial
    | idle phase unmanaged => exact moves_quietly session trivial
    | halted block fault state phase unmanaged call =>
        exact ⟨_, .notWritten block item fault state _ (by trivial) phase call (.inl unmanaged),
          rfl⟩
    | written block state phase unmanaged call =>
        exact ⟨_, .written block item state phase unmanaged call, rfl⟩
  · exact moves_to_self session

/-- A round that ends as it does in a coherent stream is one of the ways to move. -/
theorem moves_of_round_ended {session : Session σ} {round : Round}
    (running : session.stopped = none)
    (outcome : Assembler.RoundEnded platform session.assembler round session.world
      ((session.assembler.endRound round).run platform session.world)) :
    MovesTo platform session (session.step platform (.endRound round)) := by
  simp only [step, assemble, running]
  generalize (Assembler.endRound _ _).run platform _ = result at outcome ⊢
  cases outcome with
  | refused error ended => exact moves_quietly session trivial
  | idle phase => exact moves_quietly session trivial
  | overflow block overflow phase counted => exact moves_to_stopped session overflow
  | continued block counted phase added early =>
      exact ⟨_, .counted round block counted phase added early, rfl⟩
  | halted block counted error after phase added due finished =>
      cases finished with
      | noBoundary fault state write =>
          obtain ⟨rfl, _⟩ := Assembler.add_round_ok added
          exact ⟨_, .notWritten block _ fault state _ (by trivial) phase write (.inr ⟨round, rfl⟩),
            rfl⟩
      | notSaved error written saved write save =>
          exact ⟨_, .notSaved round block counted error written saved _ (by trivial) phase added
            due write save, rfl⟩
  | closed block counted closed after phase added due finished =>
      cases finished with
      | closed written saved write save =>
          exact ⟨_, .closed round block counted written saved phase added due write save, rfl⟩

theorem end_round_moves {session : Session σ}
    (coherent : session.assembler.Coherent session.world) (round : Round) :
    MovesTo platform session (session.step platform (.endRound round)) := by
  rcases running : session.stopped with _ | overflow
  · exact moves_of_round_ended running (Assembler.end_round_outcome platform coherent round)
  · simp only [step, assemble, running]
    exact moves_to_self session

/-- A signature is always applied, and takes what it resolves from the run. -/
theorem signed_of_step (session : Session σ) (platform : Platform σ) (signature : Signature) :
    ∃ answer after, Ledger.Applied platform signature.message signature.content session.world
        (.ok answer, after) ∧
      session.step platform (.sign signature) = { session with
        world := after
        history := session.history ++
          [.signed signature (session.world.unproven.resolve signature.message).1 answer] } := by
  simp only [step, sign]
  have applied := Ledger.apply_signature_outcome platform signature.message signature.content
    session.world
  generalize (Ledger.applySignature _ _).run platform _ = result at applied ⊢
  obtain ⟨answer | answer, after⟩ := result
  · cases applied
  · exact ⟨answer, after, applied, rfl⟩

theorem sign_moves (session : Session σ) (signature : Signature) :
    MovesTo platform session (session.step platform (.sign signature)) := by
  obtain ⟨answer, after, applied, stepped⟩ := session.signed_of_step platform signature
  rw [stepped]
  exact ⟨_, .signed signature answer after applied, rfl⟩

/-- Whatever a step does to the world, a script does. -/
theorem step_ran (platform : Platform σ) (session : Session σ) (operation : Operation) :
    ∃ (α : Type) (script : Script α),
      (session.step platform operation).world = (script.run platform session.world).2 := by
  have assembled {α : Type} (work : Script (Except StreamError α × Assembler))
      (event : Except StreamError α → Event) : ∃ (β : Type) (script : Script β),
        (session.assemble platform work event).world =
          (script.run platform session.world).2 := by
    unfold assemble
    cases session.stopped with
    | some overflow => exact ⟨Unit, .done (), rfl⟩
    | none =>
        refine ⟨_, work, ?_⟩
        dsimp only
        split <;> rename_i result <;> rw [result]
  cases operation with
  | startRound round => exact assembled _ _
  | writeItem item => exact assembled _ _
  | endRound round => exact assembled _ _
  | sign signature =>
      refine ⟨_, Ledger.applySignature signature.message signature.content, ?_⟩
      simp only [step, sign]
      split <;> rename_i result <;> rw [result]

theorem step_moves (platform : Platform σ) {session : Session σ}
    (coherent : session.assembler.Coherent session.world) (operation : Operation) :
    MovesTo platform session (session.step platform operation) := by
  cases operation with
  | startRound round => exact start_round_moves session round
  | writeItem item => exact write_item_moves session item
  | endRound round => exact end_round_moves coherent round
  | sign signature => exact sign_moves session signature

theorem coherent_step (platform : Platform σ) {session : Session σ}
    (coherent : session.assembler.Coherent session.world) (operation : Operation) :
    (session.step platform operation).assembler.Coherent
      (session.step platform operation).world := by
  obtain ⟨events, moved, _⟩ := step_moves platform coherent operation
  exact Assembler.coherent_of_moved coherent moved

end Session

/-! ### Numbers of closed blocks -/

/-- The numbers of the closed blocks, in the order of closing. -/
def Production.numbers (production : Production) : List UInt64 :=
  production.closed.map fun entry => entry.1.number

/-- Numbers ascend up to the last one. -/
structure Ascends (numbers : List UInt64) (last : Option UInt64) : Prop where
  ascending : numbers.Pairwise (· < ·)
  bounded : ∀ number ∈ numbers, ∃ bound, last = some bound ∧ number ≤ bound

theorem next_number_gt {chain : Chain} {number last : UInt64}
    (next : chain.nextNumber = .ok number) (lastNumber : chain.lastNumber = some last) :
    last < number := by
  simp only [Chain.nextNumber, lastNumber, checkedSucc, checkedAdd] at next
  split at next
  · rename_i fits
    cases next
    have one : (1 : UInt64).toNat = 1 := rfl
    rw [UInt64.lt_iff_toNat_lt, UInt64.toNat_add, one]
    omega
  · contradiction

section

variable {numbers : List UInt64} {chain : Chain} {number : UInt64}
  (ascends : Ascends numbers chain.lastNumber) (next : chain.nextNumber = .ok number)

include ascends next

theorem Ascends.below_next : ∀ earlier ∈ numbers, earlier < number := by
  intro earlier member
  obtain ⟨last, lastNumber, bounded⟩ := ascends.bounded earlier member
  exact UInt64.lt_of_le_of_lt bounded (next_number_gt next lastNumber)

theorem Ascends.next_new : number ∉ numbers :=
  fun member => UInt64.lt_irrefl number (ascends.below_next next number member)

theorem Ascends.append : Ascends (numbers ++ [number]) (some number) where
  ascending := by
    refine List.pairwise_append.mpr ⟨ascends.ascending, List.pairwise_singleton _ _, ?_⟩
    intro earlier member other same
    rw [List.mem_singleton.mp same]
    exact ascends.below_next next earlier member
  bounded := by
    intro earlier member
    refine ⟨number, rfl, ?_⟩
    rcases List.mem_append.mp member with before | same
    · exact UInt64.le_of_lt (ascends.below_next next earlier before)
    · rw [List.mem_singleton.mp same]
      exact UInt64.le_refl _

end

theorem Production.observe_quiet {production : Production} {events : List Event}
    (quiet : ∀ event ∈ events, event.IsQuiet) : events.foldl observe production = production := by
  induction events with
  | nil => rfl
  | cons event later inductive_hypothesis =>
      have unseen : production.observe event = production := by
        have quietly := quiet event (by simp)
        unfold Event.IsQuiet at quietly
        unfold Production.observe
        split at quietly <;> simp_all
      rw [List.foldl_cons, unseen]
      exact inductive_hypothesis fun other member => quiet other (by simp [member])

theorem Production.observe_one_quiet {production : Production} {event : Event}
    (quiet : event.IsQuiet) : [event].foldl observe production = production :=
  observe_quiet (by simpa using quiet)

section

variable {σ : Type} {platform : Platform σ} {assembler next : Assembler} {world after : World σ}
  {events : List Event} {history : List Event}

/-- Closed blocks get ascending numbers, after those of earlier sessions. -/
theorem ascends_of_moved (earlier : List UInt64) (coherent : assembler.Coherent world)
    (ascends : Ascends (earlier ++ (Production.ofHistory history).numbers)
      world.view.chain.lastNumber)
    (moved : Moved platform assembler world events next after) :
    Ascends (earlier ++ (Production.ofHistory (history ++ events)).numbers)
      after.view.chain.lastNumber := by
  rw [Production.of_history_append]
  cases moved with
  | quiet events quiet =>
      rw [Production.observe_quiet quiet]
      exact ascends
  | opened round number previousHash writer created opened written phase prior next create start
      write => exact ascends
  | abandoned round number previousHash fault state event quiet phase prior next left =>
      rw [Production.observe_one_quiet quiet]
      exact ascends
  | written block item state phase unmanaged call =>
      simpa [Production.observe, Production.numbers] using ascends
  | notWritten block item fault state event quiet phase call kind =>
      rw [Production.observe_one_quiet quiet]
      exact ascends
  | counted round block counted phase added early => exact ascends
  | notSaved round block counted error written saved event quiet phase added due write save =>
      rw [Production.observe_one_quiet quiet]
      simpa using ascends
  | closed round block counted written saved phase added due write save =>
      have follows := Assembler.follows_of_add_round added (coherent.follows block phase)
      simpa [Production.numbers, Production.observe] using ascends.append follows.next
  | signed signature answer after applied => cases applied <;> exact ascends

/-- An idle assembler has taken in nothing since a block was last closed. -/
theorem taken_of_moved (idle : assembler.phase = .idle → (Production.ofHistory history).taken = [])
    (moved : Moved platform assembler world events next after) (phase : next.phase = .idle) :
    (Production.ofHistory (history ++ events)).taken = [] := by
  rw [Production.of_history_append]
  cases moved with
  | quiet events quiet =>
      rw [Production.observe_quiet quiet]
      exact idle phase
  | closed round block counted written saved open_ added due write save => rfl
  | signed signature answer after applied => exact idle phase
  | opened | abandoned | written | notWritten | counted | notSaved => cases phase

/-- Readers see the number of the block that is open, as long as it is. -/
theorem shown_of_moved (moved : Moved platform assembler world events next after)
    (shown : world.view.openBlock = assembler.openNumber) :
    after.view.openBlock = next.openNumber := by
  cases moved with
  | quiet events quiet => exact shown
  | opened round number previousHash writer created opened written phase prior next create start
      write => rfl
  | abandoned round number previousHash fault state event quiet phase prior next left => rfl
  | written block item state phase unmanaged call =>
      rw [World.addItem_view, View.add_open_block, World.setPlatform_view, shown]
      simp only [Assembler.openNumber, phase, Assembler.withBlock, OpenBlock.add_number]
  | notWritten block item fault state event quiet phase call kind => rfl
  | counted round block counted phase added early =>
      obtain ⟨rfl, _⟩ := Assembler.add_round_ok added
      rw [shown]
      simp only [Assembler.openNumber, phase, Assembler.withBlock]
  | notSaved round block counted error written saved event quiet phase added due write save => rfl
  | closed round block counted written saved phase added due write save =>
      unfold Assembler.openNumber
      split
      · rename_i other open_
        exact absurd open_ (Assembler.phase_after_ne_assembling _ _)
      · rfl
  | signed signature answer after applied => cases applied <;> exact shown

/-- Unproven blocks lead from one to the next. -/
theorem chained_of_moved (coherent : assembler.Coherent world)
    (chained : world.unproven.blocks.IsChain UnprovenRun.LeadsTo)
    (moved : Moved platform assembler world events next after) :
    after.unproven.blocks.IsChain UnprovenRun.LeadsTo := by
  cases moved with
  | closed round block counted written saved phase added due write save =>
      have follows := Assembler.follows_of_add_round added (coherent.follows block phase)
      refine List.isChain_append.mpr ⟨chained, List.isChain_singleton _, ?_⟩
      intro newest last block head
      cases head
      have prior := (coherent.linked newest last).2.symm.trans follows.prior
      rw [Option.some.injEq] at prior
      simp [UnprovenRun.LeadsTo, OpenBlock.hash, prior]
  | signed signature answer after applied =>
      have suffix := UnprovenRun.resolve_suffix world.unproven signature.message
      cases applied <;> exact chained.suffix suffix
  | _ => exact chained

end

end ProvenBlocks
