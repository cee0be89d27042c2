import ProvenBlocks.Proofs.Course
import ProvenBlocks.Proofs.Journal
import ProvenBlocks.Proofs.Session

/-!
Assemblers follow their course as long as no call fails. Whether a call failed is read off the
journal, which only grows, so a journal without failures had none at any time before.
-/

namespace ProvenBlocks

/-- No call has failed. -/
def Journal.Faultless {σ : Type} (journal : Journal σ) : Prop :=
  ∀ call ∈ journal.calls, call.isFailure = false

instance {σ : Type} (journal : Journal σ) : Decidable journal.Faultless :=
  inferInstanceAs (Decidable (∀ call ∈ journal.calls, call.isFailure = false))

section

variable {σ α β : Type} {platform : Platform σ}

theorem Script.run_calls (platform : Platform σ) (script : Script α) (world : World (Journal σ)) :
    world.platform.calls <+: (script.run platform.journaled world).2.platform.calls := by
  rw [script.run_noted]
  exact List.prefix_append _ _

namespace Journal.Faultless

/-- What went before had no failures either. -/
theorem before {script : Script α} {world : World (Journal σ)}
    (faultless : (script.run platform.journaled world).2.platform.Faultless) :
    world.platform.Faultless :=
  fun call member => faultless call ((script.run_calls platform world).mem member)

/-- The first part of a script had none. -/
theorem first {script : Script α} {following : α → Script β} {world : World (Journal σ)}
    (faultless : ((script >>= following).run platform.journaled world).2.platform.Faultless) :
    (script.run platform.journaled world).2.platform.Faultless := by
  rw [Script.run_bind] at faultless
  rcases ran : script.run platform.journaled world with ⟨overflow | value, after⟩
  · rw [ran] at faultless
    exact faultless
  · rw [ran] at faultless
    exact faultless.before

variable {before after : Journal σ} {calls : List Call}

theorem no_failure (faultless : after.Faultless) (extends_ : Extends platform before calls after)
    {call : Call} (member : call ∈ calls) : call.isFailure = false := by
  apply faultless
  rw [extends_.calls]
  exact List.mem_append_right _ member

theorem not_abandoned (faultless : after.Faultless) {number : UInt64} {header : Item}
    {fault : IoFault} :
    ¬ Assembler.Abandoned platform.journaled number header before fault after := by
  intro left
  cases left with
  | notCreated fault state create =>
      have failed := faultless.no_failure (.of_create create) (List.mem_singleton_self _)
      contradiction
  | notOpened writer fault created opened create start =>
      have failed := faultless.no_failure
        ((Extends.of_open_block start).trans (.of_release opened writer)) (List.mem_cons_self ..)
      contradiction
  | noHeader writer fault created opened written create start write =>
      have failed := faultless.no_failure
        ((Extends.of_write_item write).trans (.of_release written writer)) (List.mem_cons_self ..)
      contradiction

end Journal.Faultless
end

/-! ### The course of an assembler -/

namespace Assembler

def openBlock? (assembler : Assembler) : Option OpenBlock :=
  match assembler.phase with
  | .assembling block => some block
  | .idle | .frozen _ | .halted _ => none

@[simps]
def course (assembler : Assembler) (view : View) : Course where
  settings := assembler.settings
  draft := assembler.openBlock?.map OpenBlock.anonymous
  lastTime := assembler.lastTime
  view := view

/-- The assembler is ready for rounds and on a sound course. -/
structure Steady {σ : Type} (assembler : Assembler) (world : World (Journal σ)) : Prop where
  coherent : assembler.Coherent world
  writable : assembler.checkWritable = .ok ()
  sound : (assembler.course world.view).Sound

theorem open_block_idle {assembler : Assembler} (phase : assembler.phase = .idle) :
    assembler.openBlock? = none := by
  simp only [openBlock?, phase]

theorem open_block_assembling {assembler : Assembler} {block : OpenBlock}
    (phase : assembler.phase = .assembling block) : assembler.openBlock? = some block := by
  simp only [openBlock?, phase]

/-- How far an assembler got along its course, and which checkpoints were saved on the way. -/
structure Advances {σ : Type} (world after : World (Journal σ)) (next : Assembler)
    (reached : Course) (saved : List Checkpoint) : Prop where
  course : next.course after.view = reached
  steady : next.Steady after
  saves : saves after.platform.calls = ProvenBlocks.saves world.platform.calls ++ saved

variable {σ : Type} {platform : Platform σ} {assembler : Assembler} {world : World (Journal σ)}

theorem start_round_advances (steady : assembler.Steady world) (round : Round)
    (faultless : ((assembler.startRound round).run platform.journaled world).2.platform.Faultless) :
    (∃ overflow, (assembler.course world.view).opened round = .error overflow ∧
      (assembler.startRound round).run platform.journaled world = (.error overflow, world)) ∨
    ∃ next after reached, (assembler.course world.view).opened round = .ok reached ∧
      (assembler.startRound round).run platform.journaled world = (.ok (.ok (), next), after) ∧
      Advances world after next reached [] := by
  have outcome := start_round_outcome platform.journaled assembler round world
  generalize (assembler.startRound round).run platform.journaled world = result
    at outcome faultless ⊢
  cases outcome with
  | refused error ended =>
      rw [steady.writable] at ended
      contradiction
  | continued block phase =>
      refine .inr ⟨assembler, world, assembler.course world.view, ?_, rfl, ?_⟩
      · simp only [Course.opened, course_draft, open_block_assembling phase, Option.map_some]
      · exact ⟨rfl, steady, (List.append_nil _).symm⟩
  | unanchored phase prior =>
      have anchored := steady.sound.anchored
      rw [course_view, prior] at anchored
      contradiction
  | overflow overflow phase next =>
      refine .inl ⟨overflow, ?_, rfl⟩
      simp only [Course.opened, course_draft, open_block_idle phase, Option.map_none, course_view,
        next]
  | halted number previousHash fault state phase prior next left =>
      exact absurd left (Journal.Faultless.not_abandoned faultless)
  | opened number previousHash writer created opened written phase prior next create start
      write =>
      have ran : (assembler.course world.view).opened round =
          .ok ((assembler.withBlock (fresh number previousHash round writer)).course
            ((world.setPlatform written).showOpenBlock number).view) := by
        simp only [Course.opened, course_draft, open_block_idle phase, Option.map_none,
          course_view, next, prior]
        rfl
      refine .inr ⟨_, _, _, ran, rfl, rfl, ⟨?_, rfl, ?_⟩, ?_⟩
      · exact coherent_of_moved steady.coherent
          (.opened round number previousHash writer created opened written phase prior next create
            start write)
      · exact steady.sound.opened ran
      · have calls := ((Journal.Extends.of_create create).trans (.of_open_block start)).trans
          (.of_write_item write)
        rw [World.showOpenBlock_platform, World.setPlatform_platform, calls.calls, saves_append]
        rfl

theorem Advances.trans {middle after : World (Journal σ)} {next last : Assembler}
    {reached final : Course} {saved more : List Checkpoint}
    (first : Advances world middle next reached saved)
    (second : Advances middle after last final more) :
    Advances world after last final (saved ++ more) :=
  ⟨second.course, second.steady, by rw [second.saves, first.saves, List.append_assoc]⟩

theorem course_with_block (assembler : Assembler) (block : OpenBlock) (view : View) :
    (assembler.withBlock block).course view =
      ⟨assembler.settings, some block.anonymous, assembler.lastTime, view⟩ := rfl

/-- Adding an item has nothing to do with the writer. -/
theorem add_anonymous (block : OpenBlock) (item : Item) :
    (block.add item).anonymous = block.anonymous.add item := by
  unfold OpenBlock.add
  split <;> rfl

theorem write_item_advances {item : Item} (steady : assembler.Steady world)
    (open_ : (assembler.course world.view).draft.isSome) (unmanaged : item.isManaged = false)
    (faultless : ((assembler.writeItem item).run platform.journaled world).2.platform.Faultless) :
    ∃ next after,
      (assembler.writeItem item).run platform.journaled world = (.ok (.ok (), next), after) ∧
      Advances world after next ((assembler.course world.view).take item) [] := by
  have outcome := write_item_outcome platform.journaled assembler item world
  generalize (assembler.writeItem item).run platform.journaled world = result
    at outcome faultless ⊢
  cases outcome with
  | refused error ended =>
      rw [steady.writable] at ended
      contradiction
  | managed writable managed =>
      rw [unmanaged] at managed
      contradiction
  | idle phase unmanaged =>
      rw [course_draft, open_block_idle phase] at open_
      contradiction
  | halted block fault state phase unmanaged call =>
      have calls := (Journal.Extends.of_write_item call).trans (.of_release state block.writer)
      have failed := faultless.no_failure calls (List.mem_cons_self ..)
      contradiction
  | written block state phase unmanaged call =>
      have taken : (assembler.withBlock (block.add item)).course
          ((world.setPlatform state).addItem item).view =
            (assembler.course world.view).take item := by
        rw [course_with_block, add_anonymous]
        simp only [Course.take, course, open_block_assembling phase, Option.map_some]
        rfl
      refine ⟨_, _, rfl, taken, ⟨?_, rfl, ?_⟩, ?_⟩
      · exact coherent_of_moved steady.coherent (.written block item state phase unmanaged call)
      · rw [taken]
        exact steady.sound.take item
      · have calls := Journal.Extends.of_write_item call
        rw [World.addItem_platform, World.setPlatform_platform, calls.calls, saves_append]
        rfl

theorem write_items_advances {items : List Item} (steady : assembler.Steady world)
    (open_ : (assembler.course world.view).draft.isSome)
    (unmanaged : ∀ item ∈ items, item.isManaged = false)
    (faultless : ((assembler.writeItems items).run platform.journaled world).2.platform.Faultless) :
    ∃ next after,
      (assembler.writeItems items).run platform.journaled world = (.ok (.ok (), next), after) ∧
      Advances world after next ((assembler.course world.view).takeAll items) [] := by
  induction items generalizing assembler world with
  | nil => exact ⟨assembler, world, rfl, rfl, steady, (List.append_nil _).symm⟩
  | cons item later inductive_hypothesis =>
      rw [writeItems] at faultless ⊢
      obtain ⟨next, after, ran, taken⟩ := write_item_advances steady open_
        (unmanaged item (List.mem_cons_self ..)) faultless.first
      rw [Script.run_bind, ran] at faultless ⊢
      have still : (next.course after.view).draft.isSome := by
        rw [taken.course, Course.take_draft, Option.isSome_map]
        exact open_
      obtain ⟨last, final, finished, all⟩ := inductive_hypothesis taken.steady still
        (fun other member => unmanaged other (List.mem_cons_of_mem _ member)) faultless
      rw [taken.course] at all
      exact ⟨last, final, finished, taken.trans all⟩

theorem course_draft_assembling {block : OpenBlock} (phase : assembler.phase = .assembling block)
    (view : View) : (assembler.course view).draft = some block.anonymous := by
  rw [course_draft, open_block_assembling phase, Option.map_some]

/-- A block has fewer rounds than the settings ask for, and those fit their word. -/
theorem add_round_of_steady (steady : assembler.Steady world) {block : OpenBlock}
    (phase : assembler.phase = .assembling block) : addRound block = .ok block.counted := by
  have unfinished := UInt32.lt_iff_toNat_lt.mp
    (steady.sound.unfinished _ (course_draft_assembling phase _))
  have bounded := (assembler.course world.view).settings.roundsPerBlock.toNat_lt
  rw [OpenBlock.anonymous_rounds] at unfinished
  exact if_pos (by omega)

theorem advances_of_counted (platform : Platform σ) (steady : assembler.Steady world)
    {round : Round} {block : OpenBlock} (phase : assembler.phase = .assembling block)
    (early : block.counted.rounds < assembler.settings.roundsPerBlock ∧ ¬ round.freeze) :
    ((assembler.course world.view).ended round).2 = none ∧
      Advances world world (assembler.withBlock block.counted)
        ((assembler.course world.view).ended round).1 [] := by
  have moved : Moved platform.journaled assembler world _ _ _ :=
    .counted round block _ phase (add_round_of_steady steady phase) early
  have sound := (steady.sound.ended round).sound
  rcases Course.ended_cases (course_draft_assembling phase world.view) round with
    ⟨_, ended⟩ | ⟨due, _⟩
  · rw [ended] at sound ⊢
    refine ⟨rfl, rfl, ⟨?_, rfl, ?_⟩, (List.append_nil _).symm⟩
    · exact coherent_of_moved steady.coherent moved
    · exact sound
  · exact absurd early.1 due

theorem advances_of_closed (steady : assembler.Steady world) {round : Round} {block : OpenBlock}
    {written saved : Journal σ} (phase : assembler.phase = .assembling block)
    (thawed : round.freeze = false)
    (due : ¬ (block.counted.rounds < assembler.settings.roundsPerBlock ∧ ¬ round.freeze))
    (write : platform.journaled.writeItem block.counted.writer
      (boundary round (block.counted.checkpoint world.view)).encode world.platform =
        (.ok (), written))
    (save : platform.journaled.save (block.counted.checkpoint world.view) written =
      (.ok (), saved)) :
    ((assembler.course world.view).ended round).2 =
        some (block.counted.closing world.view round) ∧
      Advances world ((world.setPlatform saved).close block.counted)
        ⟨assembler.settings, phaseAfter (block.counted.closed world.view round),
          some block.counted.time⟩
        ((assembler.course world.view).ended round).1
        [(block.counted.closing world.view round).checkpoint] := by
  have moved := Moved.closed round block _ written saved phase (add_round_of_steady steady phase)
    due write save
  have idle : phaseAfter (block.counted.closed world.view round) = .idle :=
    if_neg (by simp [thawed])
  have sound := (steady.sound.ended round).sound
  rcases Course.ended_cases (course_draft_assembling phase world.view) round with
    ⟨early, _⟩ | ⟨_, ended⟩
  · exact absurd ⟨early, by simp [thawed]⟩ due
  · rw [idle] at moved ⊢
    rw [ended] at sound ⊢
    refine ⟨rfl, rfl, ⟨?_, rfl, ?_⟩, ?_⟩
    · exact coherent_of_moved steady.coherent moved
    · exact sound
    · have calls := (Journal.Extends.of_write_item write).trans (.of_save save)
      rw [World.close_platform, World.setPlatform_platform, calls.calls, saves_append]
      rfl

theorem end_round_advances {round : Round} (steady : assembler.Steady world)
    (open_ : (assembler.course world.view).draft.isSome) (thawed : round.freeze = false)
    (faultless : ((assembler.endRound round).run platform.journaled world).2.platform.Faultless) :
    ∃ next after closing,
      (assembler.endRound round).run platform.journaled world =
        (.ok (.ok (closing.map Closing.block), next), after) ∧
      ((assembler.course world.view).ended round).2 = closing ∧
      Advances world after next ((assembler.course world.view).ended round).1
        (closing.toList.map Closing.checkpoint) := by
  have outcome := end_round_outcome platform.journaled steady.coherent round
  generalize (assembler.endRound round).run platform.journaled world = result
    at outcome faultless ⊢
  cases outcome with
  | refused error ended =>
      rw [steady.writable] at ended
      contradiction
  | idle phase =>
      rw [course_draft, open_block_idle phase] at open_
      contradiction
  | overflow block overflow phase counted =>
      rw [add_round_of_steady steady phase] at counted
      contradiction
  | continued block counted phase added early =>
      obtain ⟨rfl, _⟩ := add_round_ok added
      have advances := advances_of_counted platform steady phase early
      exact ⟨_, _, none, rfl, advances⟩
  | halted block counted error after phase added due finished =>
      cases finished with
      | noBoundary fault state write =>
          have calls := (Journal.Extends.of_write_item write).trans
            (.of_release state counted.writer)
          have failed := faultless.no_failure calls (List.mem_cons_self ..)
          contradiction
      | notSaved error written saved write save =>
          have calls := (Journal.Extends.of_save save).trans (.of_release saved counted.writer)
          have failed := faultless.no_failure calls (List.mem_cons_self ..)
          contradiction
  | closed block counted closed after phase added due finished =>
      cases finished with
      | closed written saved write save =>
          obtain ⟨rfl, _⟩ := add_round_ok added
          have advances := advances_of_closed steady phase thawed due write save
          exact ⟨_, _, some (block.counted.closing world.view round), rfl, advances⟩

/-- A round leads an assembler along its course, or there is no number left for a block. -/
theorem process_round_advances {round : Round} (steady : assembler.Steady world)
    (thawed : round.freeze = false) (unmanaged : ∀ item ∈ round.items, item.isManaged = false)
    (faultless :
      ((assembler.processRound round).run platform.journaled world).2.platform.Faultless) :
    (∃ overflow, (assembler.course world.view).round round = .error overflow ∧
      (assembler.processRound round).run platform.journaled world = (.error overflow, world)) ∨
    ∃ next after reached closing,
      (assembler.course world.view).round round = .ok (reached, closing) ∧
      (assembler.processRound round).run platform.journaled world =
        (.ok (.ok (closing.map Closing.block), next), after) ∧
      Advances world after next reached (closing.toList.map Closing.checkpoint) := by
  unfold processRound at faultless ⊢
  unfold Course.round
  rcases start_round_advances steady round faultless.first with
    ⟨overflow, refused, ran⟩ | ⟨started, begun, reached, opened, ran, first⟩
  · rw [Script.run_bind, ran, refused]
    exact .inl ⟨overflow, rfl, rfl⟩
  right
  rw [Script.run_bind, ran] at faultless ⊢
  have open_ : (started.course begun.view).draft.isSome := by
    rw [first.course]
    exact (Course.opened_chain opened).2.2
  obtain ⟨fed, taken, ran, items⟩ :=
    write_items_advances first.steady open_ unmanaged faultless.first
  simp only [Script.run_bind, ran] at faultless ⊢
  have still : (fed.course taken.view).draft.isSome := by
    rw [items.course, Course.take_all_draft]
    exact open_
  obtain ⟨next, after, closing, ran, closes, last⟩ :=
    end_round_advances items.steady still thawed faultless
  have all := (first.trans items).trans last
  rw [items.course, first.course] at closes all
  rw [opened]
  exact ⟨next, after, _, closing, congrArg Except.ok (Prod.ext rfl closes), ran, all⟩

/-- Readers then see what the closed block left. -/
theorem Advances.shown {round : Round} {after : World (Journal σ)} {next : Assembler}
    {course reached : Course} {closing : Closing} {saved : List Checkpoint}
    (advances : Advances world after next reached saved) (sound : course.Sound)
    (went : course.round round = .ok (reached, some closing)) :
    (⟨closing.block, after.view⟩ : Closing) = closing := by
  have left := ((sound.round went).closed closing rfl).1
  have view : after.view = closing.view := by
    rw [← advances.course] at left
    exact congrArg Course.view left
  rw [view]

end Assembler
end ProvenBlocks
