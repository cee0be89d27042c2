import ProvenBlocks.Proofs.Halting
import ProvenBlocks.Proofs.Reloading

/-!
The checkpoint of a stream and the one that it saved last, in a ledger that others use as well. They
are the same, also after a save or a writer has failed, with one exception: a block whose checkpoint
was saved may be refused by the ledger. The stream has ended by then, and shows the new block with
the time of the one before.
-/

namespace ProvenBlocks

/-- The number of the block that an answer tells closed. -/
def Event.closed? : Event → Option UInt64
  | .roundEnded _ (.ok (some block)) => some block.number
  | _ => none

theorem Production.observe_numbers (production : Production) (event : Event) :
    (production.observe event).numbers = production.numbers ++ event.closed?.toList := by
  unfold observe
  split
  · exact (List.append_nil _).symm
  · simp [numbers, Event.closed?]
  · rename_i unwritten unclosed
    have silent : event.closed? = none := by
      unfold Event.closed?
      split
      · rename_i round block
        exact absurd rfl (unclosed round block)
      · rfl
    rw [silent]
    exact (List.append_nil _).symm

namespace Session

variable {σ : Type} {platform : Platform σ}

/-- A session and what may come of it among others: operations in any order, between which others
hand blocks to the ledger, sign them and use the writers and the store. The journal notes the calls
of this stream and its ledger. -/
inductive AmongOthers (platform : Platform σ) (session : Session (Journal σ)) :
    Session (Journal σ) → Prop
  | here : AmongOthers platform session session
  | stepped {next : Session (Journal σ)} (reached : AmongOthers platform session next)
      (operation : Operation) :
      AmongOthers platform session (next.step platform.journaled operation)
  | disturbed {next : Session (Journal σ)} (reached : AmongOthers platform session next)
      (world : World (Journal σ)) (sameView : world.view = next.world.view)
      (sameCalls : world.platform.calls = next.world.platform.calls) :
      AmongOthers platform session { next with world := world }

/-- The checkpoint of the stream, as it would be saved now. -/
def checkpoint (session : Session (Journal σ)) : Checkpoint :=
  session.assembler.checkpoint session.world.view

/-- The checkpoints that the stream saved. -/
def saved (session : Session (Journal σ)) : List Checkpoint := saves session.world.platform.calls

/-- A stream that ended in the words of a ledger that refuses a block, or stopped over a sum as a
ledger does that has no next number. -/
def IsRefused (session : Session (Journal σ)) : Prop :=
  (∃ expected actual,
    session.assembler.phase = .halted (StreamError.nonContiguous expected actual).message) ∨
  session.stopped = some .addition

/-- How the checkpoint of a stream stands to what was saved since it started with the first one. -/
inductive Stands (first : Checkpoint) (session : Session (Journal σ)) : Prop
  | current
      (reported : session.production.numbers.map some = session.saved.map Checkpoint.blockNumber)
      (same : session.checkpoint = session.saved.getLast?.getD first)
  | behind (earlier : List Checkpoint) (last : Checkpoint)
      (saved : session.saved = earlier ++ [last])
      (reported : session.production.numbers.map some = earlier.map Checkpoint.blockNumber)
      (refused : session.IsRefused)
      (late : session.checkpoint =
        { last with blockTime := (earlier.getLast?.getD first).blockTime })

/-! ### One step -/

/-- Nothing is saved, and the checkpoint stays. -/
structure Unsaved (before after : Session (Journal σ)) : Prop where
  checkpoint : after.checkpoint = before.checkpoint
  saved : after.saved = before.saved
  reported : after.production.numbers = before.production.numbers
  refused : before.IsRefused → after.IsRefused

/-- What a step saves. -/
inductive Records (before after : Session (Journal σ)) : Prop
  | unsaved (unsaved : Unsaved before after)
  | taken (goesOn : ¬ before.IsRefused) (number : UInt64) (checkpoint : Checkpoint)
      (named : checkpoint.blockNumber = some number)
      (saved : after.saved = before.saved ++ [checkpoint])
      (reported : after.production.numbers = before.production.numbers ++ [number])
      (same : after.checkpoint = checkpoint)
  | refused (goesOn : ¬ before.IsRefused) (checkpoint : Checkpoint)
      (saved : after.saved = before.saved ++ [checkpoint])
      (reported : after.production.numbers = before.production.numbers)
      (refused : after.IsRefused)
      (late : after.checkpoint = { checkpoint with blockTime := before.checkpoint.blockTime })

variable {before after : Session (Journal σ)} {first : Checkpoint}

theorem Stands.records (stands : before.Stands first) (records : Records before after) :
    after.Stands first := by
  cases stands with
  | current reported same =>
      cases records with
      | unsaved unsaved =>
          refine .current ?_ ?_
          · rw [unsaved.reported, unsaved.saved]
            exact reported
          · rw [unsaved.checkpoint, unsaved.saved]
            exact same
      | taken goesOn number checkpoint named saved reported' same' =>
          refine .current ?_ ?_
          · rw [reported', saved, List.map_append, List.map_append, reported]
            simp [named]
          · rw [same', saved, List.getLast?_concat]
            rfl
      | refused goesOn checkpoint saved reported' refused late =>
          refine .behind before.saved checkpoint saved ?_ refused ?_
          · rw [reported']
            exact reported
          · rw [late, same]
  | behind earlier last saved reported refused late =>
      cases records with
      | unsaved unsaved =>
          refine .behind earlier last ?_ ?_ (unsaved.refused refused) ?_
          · rw [unsaved.saved]
            exact saved
          · rw [unsaved.reported]
            exact reported
          · rw [unsaved.checkpoint]
            exact late
      | taken goesOn => exact absurd refused goesOn
      | refused goesOn => exact absurd refused goesOn

/-- The open block of a session that goes on is the next block of the chain. -/
def IsInLine (session : Session (Journal σ)) : Prop :=
  session.stopped = none →
    ∀ block, session.assembler.phase = .assembling block → session.world.Follows block

variable {session : Session (Journal σ)}

theorem not_refused (running : session.stopped = none)
    (writable : session.assembler.refusal? = none) : ¬ session.IsRefused := by
  rintro (⟨expected, actual, halted⟩ | stopped)
  · simp only [Assembler.refusal?, halted] at writable
    cases writable
  · cases running.symm.trans stopped

/-- The numbers told closed after one more answer. -/
theorem numbers_of_answer (next : Assembler) (after : World (Journal σ)) (event : Event)
    (stopped : Option Overflow) :
    (production ⟨next, after, session.history ++ [event], stopped⟩).numbers =
      session.production.numbers ++ event.closed?.toList := by
  rw [production, Production.of_history_append, List.foldl_cons, List.foldl_nil,
    Production.observe_numbers]
  rfl

/-- An answer about no closed block, while the view keeps what a checkpoint tells of it. -/
theorem unsaved_of_answer {event : Event} (silent : event.closed? = none) {next : Assembler}
    {after : World (Journal σ)} {stopped : Option Overflow}
    (time : next.lastTime = session.assembler.lastTime)
    (chain : after.view.chain = session.world.view.chain)
    (roots : after.view.outputs.history = session.world.view.outputs.history)
    (saved : saves after.platform.calls = session.saved)
    (refused : session.IsRefused → IsRefused ⟨next, after, session.history ++ [event], stopped⟩) :
    Unsaved session ⟨next, after, session.history ++ [event], stopped⟩ where
  checkpoint := by
    simp only [checkpoint, Assembler.checkpoint, OutputRoots.trailing, time, chain, roots]
  saved := saved
  reported := by
    rw [numbers_of_answer, silent]
    exact List.append_nil _
  refused := refused

/-- Calls that save nothing. -/
theorem saved_of_extends {calls : List Call} {reached : Journal σ}
    (extended : session.world.platform.Extends platform calls reached)
    (nothing : saves calls = []) : saves reached.calls = session.saved := by
  rw [extended.calls, saves_append, nothing, List.append_nil]
  rfl

/-- Calls that save one checkpoint. -/
theorem saved_of_saving {calls : List Call} {reached : Journal σ} {checkpoint : Checkpoint}
    (extended : session.world.platform.Extends platform calls reached)
    (saving : saves calls = [checkpoint]) :
    saves reached.calls = session.saved ++ [checkpoint] := by
  rw [extended.calls, saves_append, saving]
  rfl

/-- A step keeps the open block in line and saves what it records. -/
structure Proceeds (before after : Session (Journal σ)) : Prop where
  inLine : after.IsInLine
  records : Records before after

theorem proceeds_of_same (inLine : session.IsInLine) : Proceeds session session :=
  ⟨inLine, .unsaved ⟨rfl, rfl, rfl, id⟩⟩

/-- An answer that changes nothing. -/
theorem proceeds_of_refusal (inLine : session.IsInLine) (running : session.stopped = none)
    {event : Event} (silent : event.closed? = none) :
    Proceeds session ⟨session.assembler, session.world, session.history ++ [event], none⟩ := by
  refine ⟨fun _ => inLine running, .unsaved (unsaved_of_answer silent rfl rfl rfl rfl ?_)⟩
  rintro (halted | stopped)
  · exact .inl halted
  · cases running.symm.trans stopped

/-- The session stops before anything is saved. -/
theorem proceeds_of_stop (goesOn : ¬ session.IsRefused) (overflow : Overflow) :
    Proceeds session { session with stopped := some overflow } :=
  ⟨(fun running => by cases running),
    .unsaved ⟨rfl, rfl, rfl, fun refused => absurd refused goesOn⟩⟩

/-- The stream is halted before anything is saved. -/
theorem proceeds_of_halt (goesOn : ¬ session.IsRefused) {event : Event}
    (silent : event.closed? = none) (error : StreamError) {after : World (Journal σ)}
    (chain : after.view.chain = session.world.view.chain)
    (roots : after.view.outputs.history = session.world.view.outputs.history)
    (saved : saves after.platform.calls = session.saved) :
    Proceeds session
      ⟨session.assembler.halted error, after, session.history ++ [event], none⟩ :=
  ⟨(fun _ block open_ => by cases open_), .unsaved (unsaved_of_answer silent rfl chain roots saved
    fun refused => absurd refused goesOn)⟩

theorem start_round_proceeds (inLine : session.IsInLine) (round : Round) :
    Proceeds session (session.step platform.journaled (.startRound round)) := by
  simp only [step, assemble]
  rcases running : session.stopped with _ | overflow
  · have outcome := Assembler.start_round_outcome platform.journaled session.assembler round
      session.world
    generalize (Assembler.startRound _ _).run platform.journaled _ = result at outcome ⊢
    cases outcome with
    | refused error ended => exact proceeds_of_refusal inLine running rfl
    | continued block phase => exact proceeds_of_refusal inLine running rfl
    | unanchored phase prior => exact proceeds_of_refusal inLine running rfl
    | overflow overflow phase next =>
        have goesOn := not_refused running (Assembler.refusal_of_idle phase)
        exact proceeds_of_stop goesOn overflow
    | halted number previousHash fault state phase prior next left =>
        have goesOn := not_refused running (Assembler.refusal_of_idle phase)
        exact proceeds_of_halt goesOn rfl _ rfl rfl (saves_of_abandoned left)
    | opened number previousHash writer created opened written phase prior next create start
        write =>
        have goesOn := not_refused running (Assembler.refusal_of_idle phase)
        have extended := ((Journal.Extends.of_create create).trans (.of_open_block start)).trans
          (.of_write_item write)
        refine ⟨fun _ block open_ => ?_, .unsaved ?_⟩
        · cases open_
          exact ⟨prior, next⟩
        · exact unsaved_of_answer rfl rfl rfl rfl (saved_of_extends extended rfl)
            fun refused => absurd refused goesOn
  · exact proceeds_of_same inLine

theorem write_item_proceeds (inLine : session.IsInLine) (item : Item) :
    Proceeds session (session.step platform.journaled (.writeItem item)) := by
  simp only [step, assemble]
  rcases running : session.stopped with _ | overflow
  · have outcome := Assembler.write_item_outcome platform.journaled session.assembler item
      session.world
    generalize (Assembler.writeItem _ _).run platform.journaled _ = result at outcome ⊢
    cases outcome with
    | refused error ended => exact proceeds_of_refusal inLine running rfl
    | managed writable managed => exact proceeds_of_refusal inLine running rfl
    | idle phase unmanaged => exact proceeds_of_refusal inLine running rfl
    | halted block fault state phase unmanaged call =>
        have goesOn := not_refused running (Assembler.refusal_of_assembling phase)
        have extended := (Journal.Extends.of_write_item call).trans (.of_release state block.writer)
        exact proceeds_of_halt goesOn rfl _ rfl rfl (saved_of_extends extended rfl)
    | written block state phase unmanaged call =>
        have goesOn := not_refused running (Assembler.refusal_of_assembling phase)
        refine ⟨fun _ other open_ => ?_, .unsaved ?_⟩
        · cases open_
          have before := inLine running block phase
          exact ⟨by simpa using before.prior, by simpa using before.next⟩
        · exact unsaved_of_answer rfl rfl (View.add_chain _ _) (View.add_history _ _)
            (saved_of_extends (.of_write_item call) rfl) fun refused => absurd refused goesOn
  · exact proceeds_of_same inLine

/-- A signature never saves anything. -/
theorem sign_proceeds (inLine : session.IsInLine) (signature : Signature) :
    Proceeds session (session.step platform.journaled (.sign signature)) := by
  obtain ⟨answer, after, applied, stepped⟩ :=
    session.signed_of_step platform.journaled signature
  obtain ⟨written, calls, noted, _, extended, view, _⟩ := journaled_applied applied
  rw [stepped]
  refine ⟨fun running block phase => ?_, .unsaved ?_⟩
  · have before := inLine running block phase
    exact ⟨view ▸ before.prior, view ▸ before.next⟩
  · exact unsaved_of_answer rfl rfl (congrArg View.chain view)
      (congrArg (fun seen => seen.outputs.history) view)
      (saved_of_extends extended (saves_of_proofs noted)) id

/-- A block that was not closed in the end has saved nothing. -/
theorem unfinished_proceeds (goesOn : ¬ session.IsRefused) {round : Round} {block : OpenBlock}
    {error : StreamError} {after : World (Journal σ)}
    (finished : Assembler.Finished platform.journaled block round session.world
      (.ok (.error error), after)) :
    Proceeds session ⟨session.assembler.halted error, after.hideOpenBlock,
      session.history ++ [.roundEnded round (.error error)], none⟩ := by
  cases finished with
  | noBoundary fault state write =>
      have extended := (Journal.Extends.of_write_item write).trans (.of_release state block.writer)
      exact proceeds_of_halt goesOn rfl _ rfl rfl (saved_of_extends extended rfl)
  | notSaved error written saved write save =>
      have extended := (Journal.Extends.of_write_item write).trans
        ((Journal.Extends.of_save save).trans (.of_release saved block.writer))
      exact proceeds_of_halt goesOn rfl _ (View.add_chain _ _) (View.add_history _ _)
        (saved_of_extends extended rfl)

/-- A block that was saved and shown to readers, and then refused by the ledger: no answer tells it
closed, and the stream is over. -/
structure TurnedAway (before after : Session (Journal σ)) (block : OpenBlock) : Prop where
  goesOn : ¬ before.IsRefused
  assembling : ∃ opened, before.assembler.phase = .assembling opened
  view : after.world.view = before.world.view.close block
  saved : after.saved = before.saved ++ [block.checkpoint before.world.view]
  time : after.assembler.lastTime = before.assembler.lastTime
  untold : after.production = before.production
  refused : after.IsRefused

/-- A ledger that refuses the block halts the stream. -/
theorem turned_away_of_refused (goesOn : ¬ session.IsRefused) {round : Round}
    {opened block : OpenBlock} (phase : session.assembler.phase = .assembling opened)
    {error : StreamError} {after : World (Journal σ)}
    (left : Assembler.NotTaken platform.journaled block round session.world
      (.ok (.error error), after)) :
    TurnedAway session ⟨session.assembler.halted error, after.hideOpenBlock,
      session.history ++ [.roundEnded round (.error error)], none⟩ block := by
  cases left with
  | refused error written saved write save push =>
      obtain ⟨expected, rfl⟩ := UnprovenRun.push_refused push
      have extended := (Journal.Extends.of_write_item write).trans
        ((Journal.Extends.of_save save).trans (.of_release saved block.writer))
      refine ⟨goesOn, ⟨opened, phase⟩, rfl, saved_of_saving extended rfl, rfl, ?_, .inl ⟨_, _, rfl⟩⟩
      rw [production, Production.of_history_append]
      rfl

/-- After the greatest number of all the ledger stops instead. -/
theorem turned_away_of_overflow (goesOn : ¬ session.IsRefused) {round : Round}
    {opened block : OpenBlock} (phase : session.assembler.phase = .assembling opened)
    {overflow : Overflow} {after : World (Journal σ)}
    (left : Assembler.NotTaken platform.journaled block round session.world
      (.error overflow, after)) :
    TurnedAway session { session with world := after, stopped := some overflow } block := by
  cases left with
  | overflow overflow written saved write save push =>
      have outcome := session.world.unproven.push_outcome (block.unproven session.world.view)
      rw [push] at outcome
      cases outcome
      have extended := (Journal.Extends.of_write_item write).trans (.of_save save)
      exact ⟨goesOn, ⟨opened, phase⟩, rfl, saved_of_saving extended rfl, rfl, rfl, .inr rfl⟩

theorem TurnedAway.proceeds {block : OpenBlock} (turned : TurnedAway before after block) :
    Proceeds before after := by
  refine ⟨fun running other phase => ?_, .refused turned.goesOn _ turned.saved ?_ turned.refused ?_⟩
  · rcases turned.refused with ⟨expected, actual, halted⟩ | stopped
    · cases halted.symm.trans phase
    · cases running.symm.trans stopped
  · rw [turned.untold]
  · simp only [checkpoint, Assembler.checkpoint, turned.view, turned.time]
    rfl

/-- Only the last round of a block saves a checkpoint. -/
theorem end_round_proceeds (inLine : session.IsInLine) (round : Round) :
    Proceeds session (session.step platform.journaled (.endRound round)) := by
  simp only [step, assemble]
  rcases running : session.stopped with _ | overflow
  · have outcome := Assembler.end_round_cases platform.journaled (inLine running) round
    generalize (Assembler.endRound _ _).run platform.journaled _ = result at outcome ⊢
    rcases outcome with ended | notTaken
    · cases ended with
      | refused error ended => exact proceeds_of_refusal inLine running rfl
      | idle phase => exact proceeds_of_refusal inLine running rfl
      | overflow block overflow phase counted =>
          have goesOn := not_refused running (Assembler.refusal_of_assembling phase)
          exact proceeds_of_stop goesOn overflow
      | continued block counted phase added early =>
          have goesOn := not_refused running (Assembler.refusal_of_assembling phase)
          refine ⟨fun _ other open_ => ?_, .unsaved ?_⟩
          · cases open_
            exact Assembler.follows_of_add_round added (inLine running block phase)
          · exact unsaved_of_answer rfl rfl rfl rfl rfl fun refused => absurd refused goesOn
      | halted block counted error after phase added due finished =>
          have goesOn := not_refused running (Assembler.refusal_of_assembling phase)
          exact unfinished_proceeds goesOn finished
      | closed block counted closed after phase added due finished =>
          have goesOn := not_refused running (Assembler.refusal_of_assembling phase)
          refine ⟨fun _ other open_ => ?_, ?_⟩
          · exact absurd open_ (Assembler.phase_after_ne_assembling closed other)
          cases finished with
          | closed written saved write save =>
              have extended := (Journal.Extends.of_write_item write).trans (.of_save save)
              exact .taken goesOn counted.number _ rfl (saved_of_saving extended rfl)
                (numbers_of_answer _ _ _ _) rfl
    · cases notTaken with
      | refused block counted error after phase added left =>
          have goesOn := not_refused running (Assembler.refusal_of_assembling phase)
          exact (turned_away_of_refused goesOn phase left).proceeds
      | overflow block counted overflow after phase added left =>
          have goesOn := not_refused running (Assembler.refusal_of_assembling phase)
          exact (turned_away_of_overflow goesOn phase left).proceeds
  · exact proceeds_of_same inLine

theorem step_proceeds (inLine : session.IsInLine) (operation : Operation) :
    Proceeds session (session.step platform.journaled operation) := by
  cases operation with
  | startRound round => exact start_round_proceeds inLine round
  | writeItem item => exact write_item_proceeds inLine item
  | endRound round => exact end_round_proceeds inLine round
  | sign signature => exact sign_proceeds inLine signature

/-! ### A whole run -/

theorem stands_start {settings : StreamSettings} {startup : Startup} {assembler : Assembler}
    {view : View} (started : Assembler.start settings startup = .ok (assembler, view))
    (world : World (Journal σ))
    (same : assembler.checkpoint world.view = assembler.checkpoint view)
    (unused : world.platform.calls = []) :
    IsInLine ⟨assembler, world, [], none⟩ ∧
      Stands (assembler.checkpoint view) ⟨assembler, world, [], none⟩ := by
  have idle := Assembler.start_idle started
  have nothing : saved ⟨assembler, world, [], none⟩ = [] := by rw [saved, unused]; rfl
  refine ⟨(fun _ block open_ => by cases idle.symm.trans open_), .current ?_ ?_⟩
  · rw [nothing]
    rfl
  · rw [nothing]
    exact same

theorem AmongOthers.stands {start session : Session (Journal σ)} {first : Checkpoint}
    (begun : start.IsInLine ∧ start.Stands first) (reached : AmongOthers platform start session) :
    session.IsInLine ∧ session.Stands first := by
  induction reached with
  | here => exact begun
  | @stepped next reached operation inductive_hypothesis =>
      obtain ⟨inLine, stands⟩ := inductive_hypothesis
      have proceeds : Proceeds next (next.step platform.journaled operation) :=
        step_proceeds inLine operation
      exact ⟨proceeds.inLine, stands.records proceeds.records⟩
  | disturbed reached world sameView sameCalls inductive_hypothesis =>
      obtain ⟨inLine, stands⟩ := inductive_hypothesis
      refine ⟨fun running block phase => ?_, stands.records (.unsaved ⟨?_, ?_, rfl, id⟩)⟩
      · have before := inLine running block phase
        exact ⟨sameView ▸ before.prior, sameView ▸ before.next⟩
      · rw [checkpoint, sameView]
        rfl
      · rw [saved, sameCalls]
        rfl

theorem AmongOthers.run {start session : Session (Journal σ)}
    (reached : AmongOthers platform start session) (operations : List Operation) :
    AmongOthers platform start (session.run platform.journaled operations) := by
  induction operations generalizing session with
  | nil => exact reached
  | cons operation later inductive_hypothesis =>
      exact inductive_hypothesis (reached.stepped operation)

/-- Whatever others do with the ledger and whatever fails, the checkpoint of a stream is the one
that it saved last, if every block that it saved a checkpoint for was told closed. The ledger makes
the only exception: a stream that it ended over its newest block keeps the time of the block
before, and agrees with the last checkpoint in all else. -/
theorem checkpoint_stands_as_saved {settings : StreamSettings} {startup : Startup}
    {assembler : Assembler} {view : View}
    (started : Assembler.start settings startup = .ok (assembler, view))
    {unproven : UnprovenRun WriterId} {counters : Counters} {requests : List Digest} {state : σ}
    {session : Session (Journal σ)}
    (reached : AmongOthers platform
      ⟨assembler, ⟨view, unproven, counters, requests, ⟨[], state⟩⟩, [], none⟩ session) :
    session.Stands (assembler.checkpoint view) ∧
      ∀ last, session.saved.getLast? = some last →
        session.production.numbers.length = session.saved.length → session.checkpoint = last := by
  obtain ⟨_, stands⟩ := reached.stands (stands_start started _ rfl rfl)
  refine ⟨stands, ?_⟩
  intro last newest told
  cases stands with
  | current reported same => rw [same, newest, Option.getD_some]
  | behind earlier last saved reported refused late =>
      have fewer := congrArg List.length reported
      rw [List.length_map, List.length_map, told, saved, List.length_append] at fewer
      exact absurd fewer (Nat.succ_ne_self _)

/-- A stream after its first block. -/
def firstBlock : Session (Journal Depot) :=
  let genesis : View := ⟨Chain.start .empty (some .genesis), .empty, none⟩
  let round : Round := ⟨1, ⟨1, 0⟩, false, []⟩
  (fresh ⟨.default, .idle, none⟩ genesis ⟨[], Depot.empty .log (.memory none)⟩).run
    Depot.platform.journaled [.startRound round, .endRound round]

/-- Another stream hands over a block of its own. -/
def sharedLedger : Session (Journal Depot) :=
  { firstBlock with
    world := { firstBlock.world with
      unproven := ⟨firstBlock.world.unproven.blocks ++ [⟨7, .zero, .zero, [], 9⟩]⟩ } }

theorem shared_ledger_ends_stream :
    let genesis : View := ⟨Chain.start .empty (some .genesis), .empty, none⟩
    let round : Round := ⟨2, ⟨2, 0⟩, false, []⟩
    let session := sharedLedger.run Depot.platform.journaled [.startRound round, .endRound round]
    Assembler.start .default .genesis = .ok (⟨.default, .idle, none⟩, genesis) ∧
      AmongOthers Depot.platform
        (fresh ⟨.default, .idle, none⟩ genesis ⟨[], Depot.empty .log (.memory none)⟩) session ∧
      session.saved.map Checkpoint.blockTime = [some ⟨1, 0⟩, some ⟨2, 0⟩] ∧
      session.checkpoint.blockTime = some ⟨1, 0⟩ ∧
      session.Stands (Assembler.checkpoint ⟨.default, .idle, none⟩ genesis) := by
  intro genesis round session
  have started : Assembler.start .default .genesis =
      .ok (⟨.default, .idle, none⟩, genesis) := rfl
  have closed : AmongOthers Depot.platform
      (fresh ⟨.default, .idle, none⟩ genesis ⟨[], Depot.empty .log (.memory none)⟩) firstBlock :=
    AmongOthers.here.run _
  have reached : AmongOthers Depot.platform
      (fresh ⟨.default, .idle, none⟩ genesis ⟨[], Depot.empty .log (.memory none)⟩) session :=
    (closed.disturbed sharedLedger.world rfl rfl).run _
  exact ⟨started, reached, by decide +kernel, by decide +kernel,
    (checkpoint_stands_as_saved started reached).1⟩

/-- The ledger holds the block of another stream from the start. The first checkpoint is saved, but
not that of the stream. -/
theorem refused_block_leaves_time_behind :
    let genesis : View := ⟨Chain.start .empty (some .genesis), .empty, none⟩
    let round : Round := ⟨1, ⟨1, 0⟩, false, []⟩
    let start : Session (Journal Depot) := ⟨⟨.default, .idle, none⟩,
      ⟨genesis, ⟨[⟨5, .zero, .zero, [], 9⟩]⟩, .zero, [], ⟨[], Depot.empty .log (.memory none)⟩⟩,
      [], none⟩
    let session := start.run Depot.platform.journaled [.startRound round, .endRound round]
    Assembler.start .default .genesis = .ok (⟨.default, .idle, none⟩, genesis) ∧
      session.saved.map Checkpoint.blockTime = [some ⟨1, 0⟩] ∧
      session.checkpoint.blockTime = none ∧
      session.saved.getLast? ≠ some session.checkpoint := by
  intro genesis round start session
  exact ⟨rfl, by decide +kernel, by decide +kernel, by decide +kernel⟩

end Session
end ProvenBlocks
