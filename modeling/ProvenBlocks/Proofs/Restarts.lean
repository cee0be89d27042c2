import ProvenBlocks.Proofs.Stores

/-!
Lives of a stream across restarts. A restart lets the open block and the unproven ones go and
starts again from the stored checkpoint. A life with restarts closes the same blocks and saves the
same checkpoints as one that is never interrupted and sees only the rounds of the closed blocks:
the restarted stream is always on the course of the other one.
-/

namespace ProvenBlocks

inductive Turn where
  | round (round : Round)
  | restart

/-- Neither a freeze round nor one with items that the stream writes itself. -/
def Round.IsPlain (round : Round) : Prop :=
  round.freeze = false ∧ ∀ item ∈ round.items, item.isManaged = false

/-- A stream since its first start: the rounds of the open block, those that ended up in closed
blocks, and every closed block with the view it left. Nothing happens after a failure. -/
structure Lifetime (σ : Type) where
  assembler : Assembler
  world : World (Journal σ)
  waiting : List Round
  kept : List Round
  closings : List Closing
  failure : Option Failure

namespace Lifetime

variable {σ : Type}

def begin (assembler : Assembler) (view : View) (state : σ) : Lifetime σ :=
  ⟨assembler, ⟨view, .empty, .zero, [], ⟨[], state⟩⟩, [], [], [], none⟩

def round (platform : Platform σ) (life : Lifetime σ) (round : Round) : Lifetime σ :=
  match life.failure with
  | some _ => life
  | none =>
      match (life.assembler.processRound round).run platform.journaled life.world with
      | (.error overflow, world) =>
          { life with world := world, failure := some (.overflow overflow) }
      | (.ok (.error error, assembler), world) =>
          { life with assembler := assembler, world := world, failure := some (.stream error) }
      | (.ok (.ok none, assembler), world) =>
          { life with
            assembler := assembler, world := world, waiting := life.waiting ++ [round] }
      | (.ok (.ok (some block), assembler), world) =>
          ⟨assembler, world, [], life.kept ++ (life.waiting ++ [round]),
            life.closings ++ [⟨block, world.view⟩], none⟩

/-- The writers in use: those of the unproven blocks and that of the open block. -/
def writers (life : Lifetime σ) : List WriterId :=
  life.world.unproven.blocks.map UnprovenBlock.writer
    ++ life.assembler.openBlock?.toList.map OpenBlock.writer

def letGo (platform : Platform σ) (journal : Journal σ) (writers : List WriterId) : Journal σ :=
  writers.foldl (fun left writer => platform.journaled.release writer left) journal

/-- Starts from the stored checkpoint, with an empty ledger. -/
def restart (platform : Platform σ) (load : σ → Except StreamError (Option Checkpoint))
    (life : Lifetime σ) : Lifetime σ :=
  match life.failure with
  | some _ => life
  | none =>
      match load life.world.platform.state with
      | .error error => { life with failure := some (.stream error) }
      | .ok stored =>
          match Assembler.start life.assembler.settings (.ofStored stored) with
          | .error failure => { life with failure := some failure }
          | .ok (assembler, view) =>
              { life with
                assembler := assembler
                world := ⟨view, .empty, .zero, [],
                  letGo platform life.world.platform life.writers⟩
                waiting := [] }

def step (platform : Platform σ) (load : σ → Except StreamError (Option Checkpoint))
    (life : Lifetime σ) : Turn → Lifetime σ
  | .round round => life.round platform round
  | .restart => life.restart platform load

def run (platform : Platform σ) (load : σ → Except StreamError (Option Checkpoint))
    (life : Lifetime σ) (turns : List Turn) : Lifetime σ :=
  turns.foldl (step platform load) life

/-- A life without restarts. -/
def rounds (platform : Platform σ) (life : Lifetime σ) (rounds : List Round) : Lifetime σ :=
  rounds.foldl (round platform) life

/-- No call on a writer or on the store has failed. -/
def Faultless (life : Lifetime σ) : Prop := life.world.platform.Faultless

instance (life : Lifetime σ) : Decidable life.Faultless :=
  inferInstanceAs (Decidable (∀ call ∈ life.world.platform.calls, call.isFailure = false))

/-- The checkpoints saved, in order. -/
def saved (life : Lifetime σ) : List Checkpoint := saves life.world.platform.calls

/-! ### The journal of a life -/

section

variable {platform : Platform σ} {load : σ → Except StreamError (Option Checkpoint)}
  {sound : σ → Prop} {stored : Option Checkpoint}

theorem let_go_calls (journal : Journal σ) (writers : List WriterId) :
    (letGo platform journal writers).calls = journal.calls ++ writers.map Call.release := by
  induction writers generalizing journal with
  | nil => exact (List.append_nil _).symm
  | cons writer later inductive_hypothesis =>
      have rest := inductive_hypothesis (platform.journaled.release writer journal)
      rw [(Journal.Extends.of_release journal writer).calls, List.append_assoc] at rest
      exact rest

theorem remembers_let_go (stores : platform.Stores load sound) {journal : Journal σ}
    (remembers : journal.Remembers load sound stored) (writers : List WriterId) :
    (letGo platform journal writers).Remembers load sound stored := by
  induction writers generalizing journal with
  | nil => exact remembers
  | cons writer later inductive_hypothesis =>
      exact inductive_hypothesis
        (remembers.quiet rfl rfl (stores.release writer remembers.sound))

theorem saves_releases (writers : List WriterId) : saves (writers.map Call.release) = [] := by
  apply List.filterMap_eq_nil_iff.mpr
  intro call member
  obtain ⟨writer, _, rfl⟩ := List.mem_map.mp member
  rfl

theorem round_calls (life : Lifetime σ) (round : Round) :
    life.world.platform.calls <+: (life.round platform round).world.platform.calls := by
  have grown := Script.run_calls platform (life.assembler.processRound round) life.world
  simp only [Lifetime.round]
  rcases life.failure with _ | failure
  · rcases ran : (life.assembler.processRound round).run platform.journaled life.world with
      ⟨overflow | ⟨error | _ | block, assembler⟩, world⟩
    all_goals
      rw [ran] at grown
      exact grown
  · exact List.prefix_rfl

theorem restart_calls (life : Lifetime σ) :
    life.world.platform.calls <+: (life.restart platform load).world.platform.calls := by
  unfold Lifetime.restart
  split
  · exact List.prefix_rfl
  split
  · exact List.prefix_rfl
  split
  · exact List.prefix_rfl
  · rw [let_go_calls]
    exact List.prefix_append _ _

theorem step_calls (life : Lifetime σ) (turn : Turn) :
    life.world.platform.calls <+: (life.step platform load turn).world.platform.calls := by
  cases turn with
  | round round => exact life.round_calls round
  | restart => exact life.restart_calls

theorem run_calls (life : Lifetime σ) (turns : List Turn) :
    life.world.platform.calls <+: (life.run platform load turns).world.platform.calls := by
  induction turns generalizing life with
  | nil => exact List.prefix_rfl
  | cons turn later inductive_hypothesis =>
      exact (life.step_calls turn).trans (inductive_hypothesis _)

end

/-! ### The invariant of a life -/

/-- The life is where the course leads that starts anew after the last closed block. -/
structure OnCourse (start : Course) (life : Lifetime σ) : Prop where
  steady : life.assembler.Steady life.world
  reached : ∃ reached, (start.after life.closings).Leads life.waiting reached [] ∧
    (life.assembler.course life.world.view).Agrees reached

/-- The last number of all was given to a block. -/
structure Exhausted (life : Lifetime σ) (failure : Failure) : Prop where
  overflow : ∃ overflow, failure = .overflow overflow
  greatest : ∃ last, life.closings.getLast? = some last ∧ last.block.number.toNat = 2 ^ 64 - 1

/-- What the rounds of the closed blocks lead to without restarts. -/
structure Transparent (load : σ → Except StreamError (Option Checkpoint)) (sound : σ → Prop)
    (stored : Option Checkpoint) (start : Course) (life : Lifetime σ) : Prop where
  kept : start.Leads life.kept (start.after life.closings) life.closings
  plain : ∀ round ∈ life.kept ++ life.waiting, round.IsPlain
  saved : life.saved = life.closings.map Closing.checkpoint
  remembers : life.world.platform.Remembers load sound stored
  onCourse : life.failure = none → life.OnCourse start
  exhausted : ∀ failure, life.failure = some failure → life.Exhausted failure

section

variable {platform : Platform σ} {load : σ → Except StreamError (Option Checkpoint)}
  {sound : σ → Prop} {stored : Option Checkpoint} {settings : StreamSettings}
  {assembler : Assembler} {view : View}

theorem started_sound
    (started : Assembler.start settings (.ofStored stored) = .ok (assembler, view)) :
    (assembler.course view).Sound := by
  obtain ⟨allowed, valid, rfl, rfl⟩ := Checkpoint.start_stored_ok started
  constructor
  · intro zero
    change settings.roundsPerBlock = 0 at zero
    rw [StreamSettings.validate, if_pos zero] at allowed
    contradiction
  · exact Checkpoint.regular_view valid
  · rfl
  all_goals
    intro block found
    cases found

theorem started_steady
    (started : Assembler.start settings (.ofStored stored) = .ok (assembler, view))
    (journal : Journal σ) : assembler.Steady ⟨view, .empty, .zero, [], journal⟩ := by
  have idle := Assembler.start_idle started
  constructor
  · exact Assembler.coherent_fresh idle view journal
  · simp only [Assembler.checkWritable, idle]
  · exact started_sound started

theorem started_next
    (started : Assembler.start settings (.ofStored stored) = .ok (assembler, view)) :
    ∃ number, view.chain.nextNumber = .ok number := by
  obtain ⟨_, valid, _, rfl⟩ := Checkpoint.start_stored_ok started
  exact (Checkpoint.view_of_valid valid).2

theorem transparent_begin
    (started : Assembler.start settings (.ofStored stored) = .ok (assembler, view)) {state : σ}
    (ready : sound state) (loads : load state = .ok stored) :
    (begin assembler view state).Transparent load sound stored (assembler.course view) where
  kept := .refl
  plain := fun round member => by cases member
  saved := rfl
  remembers := ⟨ready, loads⟩
  onCourse := fun _ => ⟨started_steady started _, _, .refl, rfl, rfl, rfl, .refl _⟩
  exhausted := fun failure failed => by cases failed

variable {life : Lifetime σ} {start : Course}

/-- No round has left the chain of the last closed block. -/
theorem Transparent.chain (transparent : life.Transparent load sound stored start)
    (fit : start.Sound) (onCourse : life.OnCourse start) :
    life.world.view.chain = (start.after life.closings).view.chain := by
  obtain ⟨reached, led, agrees⟩ := onCourse.reached
  have along := led.along (transparent.kept.along fit).sound
  exact agrees.view.chain.trans along.chain

theorem Transparent.last_of_overflow (transparent : life.Transparent load sound stored start)
    (fit : start.Sound) (begins : ∃ number, start.view.chain.nextNumber = .ok number)
    (onCourse : life.OnCourse start) {overflow : Overflow}
    (next : life.world.view.chain.nextNumber = .error overflow) :
    ∃ last, life.closings.getLast? = some last ∧ last.block.number.toNat = 2 ^ 64 - 1 := by
  obtain ⟨number, lastNumber, greatest⟩ := Chain.next_number_overflow next
  rw [transparent.chain fit onCourse] at next lastNumber
  rcases newest : life.closings.getLast? with _ | last
  · obtain ⟨first, begins⟩ := begins
    rw [Course.after, newest, begins] at next
    contradiction
  · have settled := (transparent.kept.along fit).settled last (List.mem_of_getLast? newest)
    rw [Course.after, newest] at lastNumber
    have same := settled.number.symm.trans lastNumber
    rw [Option.some.injEq] at same
    exact ⟨last, rfl, same ▸ greatest⟩

theorem round_world (running : life.failure = none) (round : Round) :
    (life.round platform round).world =
      ((life.assembler.processRound round).run platform.journaled life.world).2 := by
  simp only [Lifetime.round, running]
  rcases (life.assembler.processRound round).run platform.journaled life.world with
    ⟨overflow | ⟨error | _ | block, assembler⟩, world⟩ <;> rfl

/-- A round that leaves its block open waits with the others. -/
theorem Transparent.continued (transparent : life.Transparent load sound stored start)
    (onCourse : life.OnCourse start) {round : Round} (plain : round.IsPlain) {next : Assembler}
    {after : World (Journal σ)} {course : Course}
    (went : (life.assembler.course life.world.view).round round = .ok (course, none))
    (advances : Assembler.Advances life.world after next course [])
    (remembers : after.platform.Remembers load sound stored) :
    { life with
      assembler := next
      world := after
      waiting := life.waiting ++ [round]
      failure := none : Lifetime σ }.Transparent load sound stored start := by
  obtain ⟨reached, led, agrees⟩ := onCourse.reached
  obtain ⟨target, arrived, still⟩ := agrees.round went
  constructor
  · exact transparent.kept
  · intro other member
    rw [← List.append_assoc] at member
    rcases List.mem_append.mp member with earlier | now
    · exact transparent.plain other earlier
    · rw [List.mem_singleton.mp now]
      exact plain
  · exact (advances.saves.trans (List.append_nil _)).trans transparent.saved
  · exact remembers
  · intro running
    constructor
    · exact advances.steady
    · rw [advances.course]
      exact ⟨target, led.step arrived, still⟩
  · exact fun failure failed => by cases failed

/-- A round that closes its block takes all that waited along. -/
theorem Transparent.closed (transparent : life.Transparent load sound stored start)
    (fit : start.Sound) (onCourse : life.OnCourse start) {round : Round} (plain : round.IsPlain)
    {next : Assembler} {after : World (Journal σ)} {course : Course} {closing : Closing}
    (went : (life.assembler.course life.world.view).round round = .ok (course, some closing))
    (advances : Assembler.Advances life.world after next course [closing.checkpoint])
    (remembers : after.platform.Remembers load sound stored) :
    Transparent load sound stored start ⟨next, after, [], life.kept ++ (life.waiting ++ [round]),
      life.closings ++ [⟨closing.block, after.view⟩], none⟩ := by
  obtain ⟨reached, led, agrees⟩ := onCourse.reached
  obtain ⟨target, arrived, still⟩ := agrees.round went
  have before := led.along (transparent.kept.along fit).sound
  have rest : target = closing.rest reached.settings :=
    ((before.sound.round arrived).closed closing rfl).1
  rw [before.settings, (transparent.kept.along fit).settings] at rest
  rw [advances.shown onCourse.steady.sound went]
  constructor
  · rw [Course.after_concat, ← rest]
    exact transparent.kept.trans (led.step arrived)
  · intro other member
    rw [List.append_nil, ← List.append_assoc] at member
    rcases List.mem_append.mp member with earlier | now
    · exact transparent.plain other earlier
    · rw [List.mem_singleton.mp now]
      exact plain
  · rw [List.map_append]
    exact advances.saves.trans (congrArg (· ++ [closing.checkpoint]) transparent.saved)
  · exact remembers
  · intro running
    constructor
    · exact advances.steady
    · rw [advances.course, Course.after_concat, ← rest]
      exact ⟨target, .refl, still⟩
  · exact fun failure failed => by cases failed

theorem Transparent.overflowed (transparent : life.Transparent load sound stored start)
    (last : ∃ last, life.closings.getLast? = some last ∧
      last.block.number.toNat = 2 ^ 64 - 1) (overflow : Overflow) :
    { life with failure := some (.overflow overflow) : Lifetime σ }.Transparent load sound stored
      start := by
  constructor
  · exact transparent.kept
  · exact transparent.plain
  · exact transparent.saved
  · exact transparent.remembers
  · exact fun running => by cases running
  · rintro failure ⟨⟩
    exact ⟨⟨overflow, rfl⟩, last⟩

theorem Transparent.round (transparent : life.Transparent load sound stored start)
    (stores : platform.Stores load sound) (fit : start.Sound)
    (begins : ∃ number, start.view.chain.nextNumber = .ok number) {round : Round}
    (plain : round.IsPlain) (faultless : (life.round platform round).Faultless) :
    (life.round platform round).Transparent load sound stored start := by
  rcases running : life.failure with _ | failure
  swap
  · have same : life.round platform round = life := by simp only [Lifetime.round, running]
    rw [same]
    exact transparent
  have onCourse := transparent.onCourse running
  rw [Faultless, round_world running] at faultless
  have remembers := Script.run_remembers stores transparent.remembers faultless
  rcases Assembler.process_round_advances onCourse.steady plain.1 plain.2 faultless with
    ⟨overflow, refused, ran⟩ | ⟨next, after, course, closing, went, ran, advances⟩
  · simp only [Lifetime.round, running, ran]
    exact transparent.overflowed
      (transparent.last_of_overflow fit begins onCourse (Course.round_overflow refused)) overflow
  rw [ran] at remembers
  cases closing with
  | none =>
      simp only [Lifetime.round, running, ran, Option.map_none]
      exact transparent.continued onCourse plain went advances remembers
  | some closing =>
      simp only [Lifetime.round, running, ran, Option.map_some]
      exact transparent.closed fit onCourse plain went advances remembers

/-- A restarted stream is where the last closed block left it. -/
theorem Transparent.restarted (transparent : life.Transparent load sound stored start)
    (stores : platform.Stores load sound) {found : Option Checkpoint} {fresh : Assembler}
    {restored : View}
    (started : Assembler.start settings (.ofStored found) = .ok (fresh, restored))
    (agrees : (fresh.course restored).Agrees (start.after life.closings)) :
    { life with
      assembler := fresh
      world := ⟨restored, .empty, .zero, [], letGo platform life.world.platform life.writers⟩
      waiting := []
      failure := none : Lifetime σ }.Transparent load sound stored start := by
  constructor
  · exact transparent.kept
  · intro round member
    rw [List.append_nil] at member
    exact transparent.plain round (List.mem_append_left _ member)
  · rw [Lifetime.saved, let_go_calls, saves_append, saves_releases, List.append_nil]
    exact transparent.saved
  · exact remembers_let_go stores transparent.remembers life.writers
  · exact fun running => ⟨started_steady started _, _, .refl, agrees⟩
  · exact fun failure failed => by cases failed

/-- What the store holds restores the last closed block, or else the start. -/
theorem Transparent.restart
    (transparent : life.Transparent load sound stored (assembler.course view))
    (stores : platform.Stores load sound)
    (started : Assembler.start settings (.ofStored stored) = .ok (assembler, view)) :
    (life.restart platform load).Transparent load sound stored (assembler.course view) := by
  obtain ⟨allowed, _, first, _⟩ := Checkpoint.start_stored_ok started
  rcases running : life.failure with _ | failure
  swap
  · have same : life.restart platform load = life := by simp only [Lifetime.restart, running]
    rw [same]
    exact transparent
  have fit := started_sound started
  have along := transparent.kept.along fit
  have kept : life.assembler.settings = settings := by
    obtain ⟨reached, led, agrees⟩ := (transparent.onCourse running).reached
    have whole := agrees.settings.trans (led.along along.sound).settings
    rw [along.settings] at whole
    exact whole.trans (congrArg Assembler.settings first)
  have loads := transparent.remembers.loads
  rw [← Lifetime.saved, transparent.saved, List.getLast?_map] at loads
  rcases newest : life.closings.getLast? with _ | last
  · rw [newest, Option.map_none, Option.none_or] at loads
    simp only [Lifetime.restart, running, loads, kept, started]
    apply transparent.restarted stores started
    rw [Course.after, newest]
    exact ⟨rfl, rfl, rfl, .refl _⟩
  · rw [newest, Option.map_some, Option.some_or] at loads
    have settled := along.settled last (List.mem_of_getLast? newest)
    rcases Closing.start_again allowed settled with again | ⟨refused, greatest⟩
    · simp only [Lifetime.restart, running, loads, kept, again]
      apply transparent.restarted stores again
      rw [Course.after, newest]
      exact ⟨(congrArg Assembler.settings first).symm, rfl, rfl, Closing.restored_agrees settled⟩
    · simp only [Lifetime.restart, running, loads, kept, refused]
      exact transparent.overflowed ⟨last, newest, greatest⟩ .addition

/-- Every turn keeps the invariant, and so does a whole life. -/
theorem Transparent.run
    (transparent : life.Transparent load sound stored (assembler.course view))
    (stores : platform.Stores load sound)
    (started : Assembler.start settings (.ofStored stored) = .ok (assembler, view))
    {turns : List Turn} (plain : ∀ round, .round round ∈ turns → round.IsPlain)
    (faultless : (life.run platform load turns).Faultless) :
    (life.run platform load turns).Transparent load sound stored (assembler.course view) := by
  induction turns generalizing life with
  | nil => exact transparent
  | cons turn later inductive_hypothesis =>
      have before : (life.step platform load turn).Faultless := fun call member =>
        faultless call ((run_calls _ later).mem member)
      have step : (life.step platform load turn).Transparent load sound stored
          (assembler.course view) := by
        cases turn with
        | round round =>
            exact transparent.round stores (started_sound started) (started_next started)
              (plain round (List.mem_cons_self ..)) before
        | restart => exact transparent.restart stores started
      apply inductive_hypothesis step
      · intro round member
        exact plain round (List.mem_cons_of_mem _ member)
      · exact faultless

/-! ### A life without restarts -/

/-- A life that has followed its course to the end. -/
structure Arrived (life : Lifetime σ) (course : Course) (closings : List Closing) : Prop where
  running : life.failure = none
  steady : life.assembler.Steady life.world
  course : life.assembler.course life.world.view = course
  closed : life.closings = closings
  saved : life.saved = closings.map Closing.checkpoint

theorem arrived_round {course next : Course} {closings : List Closing} {round : Round}
    {closing : Option Closing} (arrived : life.Arrived course closings) (plain : round.IsPlain)
    (ran : course.round round = .ok (next, closing))
    (faultless : (life.round platform round).Faultless) :
    (life.round platform round).Arrived next (closings ++ closing.toList) := by
  rw [Faultless, round_world arrived.running] at faultless
  have sound := arrived.steady.sound
  rcases Assembler.process_round_advances arrived.steady plain.1 plain.2 faultless with
    ⟨overflow, refused, _⟩ | ⟨assembler, after, reached, found, went, result, advances⟩
  · rw [arrived.course, ran] at refused
    contradiction
  rw [arrived.course] at went sound
  have same := ran.symm.trans went
  rw [Except.ok.injEq, Prod.mk.injEq] at same
  obtain ⟨rfl, rfl⟩ := same
  have saved := advances.saves
  rw [← Lifetime.saved, arrived.saved, ← List.map_append] at saved
  cases closing with
  | none =>
      simp only [Lifetime.round, arrived.running, result, Option.map_none]
      constructor
      · rfl
      · exact advances.steady
      · exact advances.course
      · exact arrived.closed.trans (List.append_nil _).symm
      · exact saved
  | some closing =>
      simp only [Lifetime.round, arrived.running, result, Option.map_some]
      rw [advances.shown sound went, arrived.closed]
      exact ⟨rfl, advances.steady, advances.course, rfl, saved⟩

theorem arrived_rounds
    (started : Assembler.start settings (.ofStored stored) = .ok (assembler, view)) {state : σ}
    {rounds : List Round} {course : Course} {closings : List Closing}
    (led : (assembler.course view).Leads rounds course closings)
    (plain : ∀ round ∈ rounds, round.IsPlain)
    (faultless : ((begin assembler view state).rounds platform rounds).Faultless) :
    ((begin assembler view state).rounds platform rounds).Arrived course closings := by
  induction led with
  | refl => exact ⟨rfl, started_steady started _, rfl, rfl, rfl⟩
  | @step rounds course next closings round closing led ran inductive_hypothesis =>
      simp only [Lifetime.rounds, List.foldl_concat] at faultless ⊢
      apply arrived_round _ (plain round (by simp)) ran faultless
      apply inductive_hypothesis
      · intro earlier member
        exact plain earlier (List.mem_append_left _ member)
      · exact fun call member => faultless call ((round_calls _ round).mem member)

end

/-! ### Restarts make no difference -/

/-- Without failing calls, a life with restarts and one without that sees only the rounds of the
closed blocks close the same blocks, leave the same views and save the same checkpoints. Each
block has the number after the one before it and builds on its hash. The only end is the last
number of all. -/
theorem restarts_are_transparent {σ τ : Type} {platform : Platform σ} {other : Platform τ}
    {load : σ → Except StreamError (Option Checkpoint)} {sound : σ → Prop}
    (stores : platform.Stores load sound) {settings : StreamSettings}
    {stored : Option Checkpoint} {assembler : Assembler} {view : View}
    (started : Assembler.start settings (.ofStored stored) = .ok (assembler, view))
    {state : σ} (ready : sound state) (loads : load state = .ok stored)
    {turns : List Turn} (plain : ∀ round, .round round ∈ turns → round.IsPlain)
    {life : Lifetime σ} (lived : (begin assembler view state).run platform load turns = life)
    (faultless : life.Faultless) {fresh : τ} {straight : Lifetime τ}
    (fed : (begin assembler view fresh).rounds other life.kept = straight)
    (calm : straight.Faultless) :
    straight.closings = life.closings ∧ straight.saved = life.saved ∧ straight.failure = none ∧
      life.closings.IsChain Closing.Continues ∧
      (∀ first, life.closings.head? = some first → view.Precedes first.block) ∧
      ∀ failure, life.failure = some failure → life.Exhausted failure := by
  subst lived fed
  have transparent := (transparent_begin started ready loads).run stores started plain faultless
  have along := transparent.kept.along (started_sound started)
  have arrived := arrived_rounds started transparent.kept
    (fun round member => transparent.plain round (List.mem_append_left _ member)) calm
  refine ⟨arrived.closed, ?_, arrived.running, along.chained, along.first, transparent.exhausted⟩
  rw [arrived.saved, transparent.saved]

/-- Two rounds a block, after a block whose hash is lost. -/
def recovered : Checkpoint := ⟨some 6, none, [Digest.zero], []⟩

def twoRounds : StreamSettings := { StreamSettings.default with roundsPerBlock := 2 }

def feeding (number : UInt64) : Round :=
  ⟨number, ⟨1, 0⟩, false, [.transaction ⟨[1]⟩, .result ⟨.success, ⟨1, 0⟩, number⟩]⟩

/-- The third round is lost, because its block is still open when the stream restarts. -/
def interrupted : List Turn :=
  [.restart, .round (feeding 1), .round (feeding 2), .round (feeding 3), .restart,
    .round (feeding 4), .round (feeding 5), .restart]

def interruptedLife : Lifetime Depot :=
  (begin ⟨twoRounds, .idle, none⟩ recovered.view
    (Depot.empty .log (.memory (some recovered)))).run Depot.platform Depot.load interrupted

def straightLife : Lifetime Depot :=
  (begin ⟨twoRounds, .idle, none⟩ recovered.view
    (Depot.empty .log (.memory none))).rounds Depot.platform interruptedLife.kept

theorem interrupted_life_is_transparent :
    Assembler.start twoRounds (.ofStored (some recovered)) =
        .ok (⟨twoRounds, .idle, none⟩, recovered.view) ∧
      interruptedLife.Faultless ∧ straightLife.Faultless ∧
      interruptedLife.closings.map (fun closing => closing.block.number) = [7, 8] ∧
      interruptedLife.kept.map Round.number = [1, 2, 4, 5] ∧
      straightLife.closings = interruptedLife.closings ∧
      straightLife.saved = interruptedLife.saved ∧ straightLife.failure = none ∧
      interruptedLife.closings.IsChain Closing.Continues ∧
      (∀ first, interruptedLife.closings.head? = some first →
        recovered.view.Precedes first.block) ∧
      ∀ failure, interruptedLife.failure = some failure → interruptedLife.Exhausted failure := by
  have started : Assembler.start twoRounds (.ofStored (some recovered)) =
      .ok (⟨twoRounds, .idle, none⟩, recovered.view) := rfl
  have plain : ∀ round, .round round ∈ interrupted → round.IsPlain := by
    intro round member
    simp only [interrupted, List.mem_cons, Turn.round.injEq, reduceCtorEq, List.not_mem_nil,
      false_or, or_false] at member
    rcases member with rfl | rfl | rfl | rfl | rfl <;> exact ⟨rfl, by decide⟩
  -- one evaluation of both lives for all four facts
  have evaluated : interruptedLife.Faultless ∧ straightLife.Faultless ∧
      interruptedLife.closings.map (fun closing => closing.block.number) = [7, 8] ∧
      interruptedLife.kept.map Round.number = [1, 2, 4, 5] := by decide +kernel
  obtain ⟨faultless, calm, numbers, kept⟩ := evaluated
  exact ⟨started, faultless, calm, numbers, kept,
    restarts_are_transparent Depot.stores_in_memory started ⟨_, rfl⟩ rfl plain rfl faultless rfl
      calm⟩

end Lifetime
end ProvenBlocks
