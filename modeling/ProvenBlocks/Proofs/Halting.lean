import ProvenBlocks.Depot
import ProvenBlocks.Proofs.Session

/-!
Errors of the three calls of consensus. An error that is not fatal leaves everything as it was; the
first fatal one ends production for good, as a freeze block does, and every later call is refused
in the same words. Between two calls the ledger, the store and the writers may be in any state.
-/

namespace ProvenBlocks

/-- The demand answered with an error. -/
def Demand.failed (demand : Demand) (error : StreamError) : Event :=
  match demand with
  | .startRound round => .roundStarted round (.error error)
  | .writeItem item => .itemWritten item (.error error)
  | .endRound round => .roundEnded round (.error error)

namespace Event

/-- The error that a call of consensus was answered with. -/
def error? : Event → Option StreamError
  | .roundStarted _ (.error error) | .itemWritten _ (.error error)
  | .roundEnded _ (.error error) => some error
  | .roundStarted _ (.ok _) | .itemWritten _ (.ok _) | .roundEnded _ (.ok _)
  | .signed _ _ _ => none

def fatal? (event : Event) : Option StreamError := event.error?.filter StreamError.isFatal

def frozen? : Event → Option UInt64
  | .roundEnded _ (.ok (some block)) => if block.frozen then some block.number else none
  | _ => none

/-- What every call after this event is answered with, if it ends production. -/
def ending? (event : Event) : Option StreamError :=
  (event.frozen?.map StreamError.frozen).or
    (event.fatal?.map fun error => .halted error.message)

@[simp] theorem failed_error (demand : Demand) (error : StreamError) :
    (demand.failed error).error? = some error := by
  cases demand <;> rfl

@[simp] theorem failed_frozen (demand : Demand) (error : StreamError) :
    (demand.failed error).frozen? = none := by
  cases demand <;> rfl

theorem failed_ending {error : StreamError} (demand : Demand) (fatal : error.isFatal = true) :
    (demand.failed error).ending? = some (.halted error.message) := by
  simp [ending?, fatal?, fatal]

theorem harmless_ending {error : StreamError} (demand : Demand) (harmless : error.isFatal = false) :
    (demand.failed error).ending? = none := by
  simp [ending?, fatal?, harmless]

/-- Production that halted did so with its first fatal error. -/
theorem first_fatal {history : List Event} {reason : String}
    (halted : history.findSome? ending? = some (.halted reason)) :
    ∃ first, history.findSome? fatal? = some first ∧ reason = first.message := by
  induction history with
  | nil => cases halted
  | cons event later inductive_hypothesis =>
      rw [List.findSome?_cons] at halted ⊢
      rcases ending : event.ending? with _ | refusal
      · rw [ending] at halted
        have ⟨_, unharmed⟩ := Option.or_eq_none_iff.mp ending
        rw [Option.map_eq_none_iff.mp unharmed]
        exact inductive_hypothesis halted
      · rw [ending, Option.some.injEq] at halted
        subst halted
        rcases Option.or_eq_some_iff.mp ending with frozen | ⟨_, fatal⟩
        · simp at frozen
        · have ⟨first, isFatal, same⟩ := Option.map_eq_some_iff.mp fatal
          rw [StreamError.halted.injEq] at same
          rw [isFatal]
          exact ⟨first, rfl, same.symm⟩

/-- Production that is frozen closed a freeze block with that number. -/
theorem frozen_block {history : List Event} {number : UInt64}
    (frozen : history.findSome? ending? = some (.frozen number)) :
    ∃ event ∈ history, event.frozen? = some number := by
  have ⟨event, member, ending⟩ := List.exists_of_findSome?_eq_some frozen
  refine ⟨event, member, ?_⟩
  rcases Option.or_eq_some_iff.mp ending with closed | ⟨_, fatal⟩
  · simpa using closed
  · simp at fatal

end Event

/-- Every error of a store that does not save is fatal. -/
def Platform.FailsFatally {σ : Type} (platform : Platform σ) : Prop :=
  ∀ checkpoint state error after,
    platform.save checkpoint state = (.error error, after) → error.isFatal = true

namespace StateFile

variable {tree after : FileTree} {path : String} {error : StreamError}

theorem make_parent_error {disturbance : Option (Nat × SystemFault)}
    (failed : makeParent tree path disturbance = (.error error, after)) :
    ∃ reason, error = .stateStore reason := by
  unfold makeParent at failed
  dsimp only at failed
  split at failed
  · cases failed
  split at failed
  · cases failed
    exact ⟨_, rfl⟩
  · rcases made : tree.makeDirectories ((Path.parent? path).getD "") with ⟨fault | _, tree⟩
    · rw [made] at failed
      cases failed
      exact ⟨_, rfl⟩
    · rw [made] at failed
      cases failed

theorem write_temporary_error {content : Bytes}
    {disturbance : Option (Option Nat × SystemFault)}
    (failed : writeTemporary tree path content disturbance = (.error error, after)) :
    ∃ reason, error = .stateStore reason := by
  unfold writeTemporary at failed
  split at failed
  · cases failed
    exact ⟨_, rfl⟩
  split at failed
  · cases failed
  · cases failed
    exact ⟨_, rfl⟩

theorem replace_error {temporary : String} {disturbance : Option SystemFault}
    (failed : replace tree temporary path disturbance = (.error error, after)) :
    ∃ reason, error = .stateStore reason := by
  unfold replace at failed
  split at failed
  · cases failed
    exact ⟨_, rfl⟩
  split at failed
  · cases failed
  · cases failed
    exact ⟨_, rfl⟩

/-- Whatever fails while a checkpoint is saved is a fault of the store. -/
theorem save_disturbed_error {disturbance : Disturbance} {checkpoint : Checkpoint}
    (failed : saveDisturbed disturbance tree path checkpoint = (.error error, after)) :
    ∃ reason, error = .stateStore reason := by
  unfold saveDisturbed at failed
  split at failed
  · rename_i parent
    cases failed
    exact make_parent_error parent
  dsimp only at failed
  split at failed
  · rename_i written
    cases failed
    exact write_temporary_error written
  · exact replace_error failed

end StateFile

theorem Depot.fails_fatally : Depot.platform.FailsFatally := by
  intro checkpoint depot error after failed
  simp only [Depot.platform, Depot.save] at failed
  split at failed
  · cases failed
    rfl
  · split at failed
    · cases failed
    · split at failed
      · rename_i path error tree saved
        cases failed
        obtain ⟨reason, rfl⟩ := StateFile.save_disturbed_error saved
        rfl
      · cases failed

namespace Assembler

/-- What a frozen or halted stream answers to every call. -/
def refusal? (assembler : Assembler) : Option StreamError :=
  match assembler.phase with
  | .frozen block => some (.frozen block)
  | .halted reason => some (.halted reason)
  | .idle | .assembling _ => none

theorem check_writable_error {assembler : Assembler} {refusal : StreamError} :
    assembler.checkWritable = .error refusal ↔ assembler.refusal? = some refusal := by
  rcases phase : assembler.phase <;> simp [checkWritable, refusal?, phase]

theorem check_writable_ok {assembler : Assembler} :
    assembler.checkWritable = .ok () ↔ assembler.refusal? = none := by
  rcases phase : assembler.phase <;> simp [checkWritable, refusal?, phase]

variable {σ : Type} {platform : Platform σ}

/-- How a call of consensus ends: refused by a stream that is over, or answered with a harmless
error, or with a fatal one that halts the stream, or without an error. -/
inductive Called (assembler : Assembler) (world : World σ) (demand : Demand) :
    Event → Assembler → World σ → Prop
  | refused (error : StreamError) (isOver : assembler.refusal? = some error) :
      Called assembler world demand (demand.failed error) assembler world
  | harmless (error : StreamError) (writable : assembler.refusal? = none)
      (harmless : error.isFatal = false) :
      Called assembler world demand (demand.failed error) assembler world
  | halted (error : StreamError) (after : World σ) (writable : assembler.refusal? = none)
      (fatal : error.isFatal = true) :
      Called assembler world demand (demand.failed error) (assembler.halted error) after
  | succeeded (event : Event) (next : Assembler) (after : World σ)
      (writable : assembler.refusal? = none) (answered : event.error? = none)
      (ending : next.refusal? = event.ending?)
      (follows : ∀ block, next.phase = .assembling block → after.Follows block) :
      Called assembler world demand event next after

theorem refusal_of_idle {assembler : Assembler} (phase : assembler.phase = .idle) :
    assembler.refusal? = none := by
  simp only [refusal?, phase]

theorem refusal_of_assembling {assembler : Assembler} {block : OpenBlock}
    (phase : assembler.phase = .assembling block) : assembler.refusal? = none := by
  simp only [refusal?, phase]

theorem start_round_called {assembler next : Assembler} {world after : World σ} {round : Round}
    {answer : Except StreamError Unit}
    (follows : ∀ block, assembler.phase = .assembling block → world.Follows block)
    (ran : (assembler.startRound round).run platform world = (.ok (answer, next), after)) :
    Called assembler world (.startRound round) (.roundStarted round answer) next after := by
  have outcome := start_round_outcome platform assembler round world
  rw [ran] at outcome
  cases outcome with
  | refused error ended => exact .refused error (check_writable_error.mp ended)
  | continued block phase =>
      have writable := refusal_of_assembling phase
      exact .succeeded _ _ _ writable rfl writable follows
  | unanchored phase prior => exact .harmless _ (refusal_of_idle phase) rfl
  | halted number previousHash fault state phase prior next left =>
      exact .halted _ _ (refusal_of_idle phase) rfl
  | opened number previousHash writer created opened written phase prior next create start write =>
      refine .succeeded _ _ _ (refusal_of_idle phase) rfl rfl ?_
      intro block same
      cases same
      exact ⟨prior, next⟩

theorem write_item_called {assembler next : Assembler} {world after : World σ} {item : Item}
    {answer : Except StreamError Unit}
    (follows : ∀ block, assembler.phase = .assembling block → world.Follows block)
    (ran : (assembler.writeItem item).run platform world = (.ok (answer, next), after)) :
    Called assembler world (.writeItem item) (.itemWritten item answer) next after := by
  have outcome := write_item_outcome platform assembler item world
  rw [ran] at outcome
  cases outcome with
  | refused error ended => exact .refused error (check_writable_error.mp ended)
  | managed writable managed => exact .harmless _ (check_writable_ok.mp writable) rfl
  | idle phase unmanaged => exact .harmless _ (refusal_of_idle phase) rfl
  | halted block fault state phase unmanaged call =>
      exact .halted _ _ (refusal_of_assembling phase) rfl
  | written block state phase unmanaged call =>
      refine .succeeded _ _ _ (refusal_of_assembling phase) rfl rfl ?_
      intro other same
      cases same
      have before := follows block phase
      exact ⟨by simpa using before.prior, by simpa using before.next⟩

/-- A round that ends with an error halts the stream, whether the boundary could not be written,
the checkpoint not saved, or the ledger did not take the block. -/
theorem end_round_called {assembler next : Assembler} {world after : World σ} {round : Round}
    {answer : Except StreamError (Option ClosedBlock)} (failsFatally : platform.FailsFatally)
    (follows : ∀ block, assembler.phase = .assembling block → world.Follows block)
    (ran : (assembler.endRound round).run platform world = (.ok (answer, next), after)) :
    Called assembler world (.endRound round) (.roundEnded round answer) next after := by
  have outcome := end_round_cases platform follows round
  rw [ran] at outcome
  rcases outcome with ended | notTaken
  · cases ended with
    | refused error ended => exact .refused error (check_writable_error.mp ended)
    | idle phase => exact .harmless _ (refusal_of_idle phase) rfl
    | continued block counted phase added early =>
        refine .succeeded _ _ _ (refusal_of_assembling phase) rfl rfl ?_
        intro other same
        cases same
        exact follows_of_add_round added (follows block phase)
    | halted block counted error after phase added due finished =>
        have fatal : error.isFatal = true := by
          cases finished with
          | noBoundary fault state write => rfl
          | notSaved error written saved write save => exact failsFatally _ _ _ _ save
        exact .halted error _ (refusal_of_assembling phase) fatal
    | closed block counted closed after phase added due finished =>
        refine .succeeded _ _ _ (refusal_of_assembling phase) rfl ?_ ?_
        · cases frozen : closed.frozen <;>
            simp [refusal?, phaseAfter, frozen, Event.ending?, Event.frozen?, Event.fatal?,
              Event.error?]
        · intro other same
          exact absurd same (phase_after_ne_assembling closed other)
  · cases notTaken with
    | refused block counted error after phase added left =>
        have fatal : error.isFatal = true := by
          cases left with
          | refused error written saved write save push =>
              obtain ⟨expected, rfl⟩ := UnprovenRun.push_refused push
              rfl
        exact .halted error _ (refusal_of_assembling phase) fatal

end Assembler

namespace Session

variable {σ : Type} {platform : Platform σ}

/-- A session and what may come of it: operations in any order, between which the ledger, the
counters, the requests, the writers and the store may change in any way. -/
inductive Later (platform : Platform σ) (session : Session σ) : Session σ → Prop
  | here : Later platform session session
  | stepped {next : Session σ} (later : Later platform session next) (operation : Operation) :
      Later platform session (next.step platform operation)
  | disturbed {next : Session σ} (later : Later platform session next) (world : World σ)
      (sameView : world.view = next.world.view) :
      Later platform session { next with world := world }

/-- While it runs, the stream refuses calls only as the first event that ended it says. -/
structure Orderly (session : Session σ) : Prop where
  follows : ∀ block, session.assembler.phase = .assembling block → session.world.Follows block
  ended : session.assembler.refusal? = session.history.findSome? Event.ending?

theorem demand_outcome (failsFatally : platform.FailsFatally) {session : Session σ}
    (running : session.stopped = none)
    (follows : ∀ block, session.assembler.phase = .assembling block →
      session.world.Follows block) (demand : Demand) :
    (∃ overflow, (session.step platform demand.operation).stopped = some overflow) ∨
      ∃ event next after, session.assembler.Called session.world demand event next after ∧
        session.step platform demand.operation =
          ⟨next, after, session.history ++ [event], none⟩ := by
  cases demand with
  | startRound round =>
      simp only [Demand.operation, step, assemble, running]
      rcases ran : (session.assembler.startRound round).run platform session.world with
        ⟨overflow | ⟨answer, next⟩, after⟩
      · exact .inl ⟨overflow, rfl⟩
      · exact .inr ⟨_, next, after, Assembler.start_round_called follows ran, rfl⟩
  | writeItem item =>
      simp only [Demand.operation, step, assemble, running]
      rcases ran : (session.assembler.writeItem item).run platform session.world with
        ⟨overflow | ⟨answer, next⟩, after⟩
      · exact .inl ⟨overflow, rfl⟩
      · exact .inr ⟨_, next, after, Assembler.write_item_called follows ran, rfl⟩
  | endRound round =>
      simp only [Demand.operation, step, assemble, running]
      rcases ran : (session.assembler.endRound round).run platform session.world with
        ⟨overflow | ⟨answer, next⟩, after⟩
      · exact .inl ⟨overflow, rfl⟩
      · exact .inr ⟨_, next, after, Assembler.end_round_called failsFatally follows ran, rfl⟩

/-- Signatures neither change the stream nor what readers see. -/
theorem signed_outcome (session : Session σ) (platform : Platform σ) (signature : Signature) :
    ∃ after event, session.step platform (.sign signature) =
        { session with world := after, history := session.history ++ [event] } ∧
      after.view = session.world.view ∧ event.ending? = none := by
  obtain ⟨answer, after, applied, stepped⟩ := session.signed_of_step platform signature
  refine ⟨after, _, stepped, ?_, rfl⟩
  cases applied <;> rfl

/-- An operation is a call of consensus or a signature. -/
theorem demand_or_signature (operation : Operation) :
    (∃ demand : Demand, operation = demand.operation) ∨ ∃ signature, operation = .sign signature := by
  cases operation with
  | startRound round => exact .inl ⟨.startRound round, rfl⟩
  | writeItem item => exact .inl ⟨.writeItem item, rfl⟩
  | endRound round => exact .inl ⟨.endRound round, rfl⟩
  | sign signature => exact .inr ⟨signature, rfl⟩

theorem stopped_stays {session : Session σ} {overflow : Overflow}
    (stopped : session.stopped = some overflow) (operation : Operation) :
    (session.step platform operation).stopped = some overflow := by
  rcases demand_or_signature operation with ⟨demand, rfl⟩ | ⟨signature, rfl⟩
  · cases demand <;> simp only [Demand.operation, step, assemble, stopped]
  · obtain ⟨after, event, stepped, _⟩ := session.signed_outcome platform signature
    rw [stepped]
    exact stopped

theorem orderly_of_same_view {session : Session σ} (orderly : session.Orderly) {world : World σ}
    (sameView : world.view = session.world.view) : ({ session with world := world }).Orderly where
  follows := by
    intro block phase
    have before := orderly.follows block phase
    exact ⟨sameView ▸ before.prior, sameView ▸ before.next⟩
  ended := orderly.ended

theorem Orderly.called {session : Session σ} (orderly : session.Orderly) {demand : Demand}
    {event : Event} {next : Assembler} {after : World σ}
    (called : session.assembler.Called session.world demand event next after) :
    Orderly ⟨next, after, session.history ++ [event], none⟩ := by
  have ended := orderly.ended
  cases called with
  | refused error isOver =>
      refine ⟨orderly.follows, ?_⟩
      rw [isOver] at ended
      simp only [List.findSome?_append, ← ended, isOver, Option.some_or]
  | harmless error writable harmless =>
      refine ⟨orderly.follows, ?_⟩
      rw [writable] at ended
      simp [List.findSome?_append, ← ended, writable, Event.harmless_ending demand harmless]
  | halted error after writable fatal =>
      refine ⟨(fun block phase => by cases phase), ?_⟩
      rw [writable] at ended
      simp [List.findSome?_append, ← ended, Assembler.refusal?, Event.failed_ending demand fatal]
  | succeeded event next after writable answered ending follows =>
      refine ⟨follows, ?_⟩
      rw [writable] at ended
      simp [List.findSome?_append, ← ended, ending]

/-- Every operation keeps the order, unless the session stops over an overflow. -/
theorem Orderly.step (failsFatally : platform.FailsFatally) {session : Session σ}
    (running : session.stopped = none) (orderly : session.Orderly) (operation : Operation)
    (goesOn : (session.step platform operation).stopped = none) :
    (session.step platform operation).Orderly := by
  rcases demand_or_signature operation with ⟨demand, rfl⟩ | ⟨signature, rfl⟩
  · rcases demand_outcome failsFatally running orderly.follows demand with
      ⟨overflow, stopped⟩ | ⟨event, next, after, called, stepped⟩
    · rw [goesOn] at stopped
      contradiction
    · rw [stepped]
      exact orderly.called called
  · obtain ⟨after, event, stepped, sameView, silent⟩ :=
      session.signed_outcome platform signature
    rw [stepped]
    have seen := session.orderly_of_same_view orderly sameView
    refine ⟨seen.follows, ?_⟩
    have ended := orderly.ended
    simp [List.findSome?_append, silent, ended]

theorem Later.orderly (failsFatally : platform.FailsFatally) {session later : Session σ}
    (orderly : session.Orderly) (reached : Later platform session later)
    (running : later.stopped = none) : later.Orderly := by
  induction reached with
  | here => exact orderly
  | @stepped next reached operation inductive_hypothesis =>
      rcases stopped : next.stopped with _ | overflow
      · exact (inductive_hypothesis stopped).step failsFatally stopped operation running
      · rw [stopped_stays stopped operation] at running
        contradiction
  | disturbed reached world sameView inductive_hypothesis =>
      exact orderly_of_same_view (inductive_hypothesis running) sameView

theorem orderly_start {settings : StreamSettings} {startup : Startup} {assembler : Assembler}
    {view : View} (started : Assembler.start settings startup = .ok (assembler, view))
    (world : World σ) : Orderly (⟨assembler, world, [], none⟩ : Session σ) := by
  have idle := Assembler.start_idle started
  refine ⟨?_, Assembler.refusal_of_idle idle⟩
  intro block phase
  cases idle.symm.trans phase

/-! ### A stream that is over -/

/-- A stream that is over refuses a call and changes nothing. -/
theorem refused_of_over {session : Session σ} {refusal : StreamError}
    (running : session.stopped = none) (isOver : session.assembler.refusal? = some refusal)
    (demand : Demand) :
    session.step platform demand.operation =
      { session with history := session.history ++ [demand.failed refusal] } := by
  have ended := Assembler.check_writable_error.mpr isOver
  cases demand <;>
    simp only [Demand.operation, Demand.failed, step, assemble, running, Assembler.startRound,
      Assembler.writeItem, Assembler.endRound, ended, Script.run_pure]

theorem Later.stays_over {session later : Session σ} {refusal : StreamError}
    (running : session.stopped = none) (isOver : session.assembler.refusal? = some refusal)
    (reached : Later platform session later) :
    later.assembler = session.assembler ∧ later.stopped = none := by
  induction reached with
  | here => exact ⟨rfl, running⟩
  | @stepped next reached operation inductive_hypothesis =>
      have ⟨same, goesOn⟩ := inductive_hypothesis
      rcases demand_or_signature operation with ⟨demand, rfl⟩ | ⟨signature, rfl⟩
      · rw [refused_of_over goesOn (same ▸ isOver) demand]
        exact ⟨same, goesOn⟩
      · obtain ⟨after, event, stepped, _⟩ := next.signed_outcome platform signature
        rw [stepped]
        exact ⟨same, goesOn⟩
  | disturbed reached world sameView inductive_hypothesis => exact inductive_hypothesis

/-- What an error says about the stream that answered a call with it. -/
structure Honest (session : Session σ) (demand : Demand) (error : StreamError) (next : Assembler)
    (after : World σ) : Prop where
  harmless : error.isFatal = false → next = session.assembler ∧ after = session.world
  fatal : error.isFatal = true →
    ∃ first, (session.history ++ [demand.failed error]).findSome? Event.fatal? = some first ∧
      next.phase = .halted first.message

/-- A stream that is over answers every call in the same words, whatever comes between, and no
call has an effect. -/
structure Over (platform : Platform σ) (session : Session σ) (refusal : StreamError) : Prop where
  cause :
    (∃ number, refusal = .frozen number ∧ session.assembler.phase = .frozen number ∧
      ∃ event ∈ session.history, event.frozen? = some number) ∨
    ∃ first, refusal = .halted first.message ∧
      session.assembler.phase = .halted first.message ∧
      session.history.findSome? Event.fatal? = some first
  refuses : ∀ later, Later platform session later →
    later.assembler = session.assembler ∧ ∀ demand : Demand,
      later.step platform demand.operation =
        { later with history := later.history ++ [demand.failed refusal] }

theorem halted_of_fatal {session : Session σ} {demand : Demand} {error : StreamError}
    {next : Assembler} {after : World σ} (fatal : error.isFatal = true)
    (called : session.assembler.Called session.world demand (demand.failed error) next after) :
    ∃ reason, next.phase = .halted reason := by
  generalize answered : demand.failed error = event at called
  have found := congrArg Event.error? answered
  rw [Event.failed_error] at found
  cases called with
  | refused other isOver =>
      rw [Event.failed_error, Option.some.injEq] at found
      subst found
      rcases phase : session.assembler.phase with _ | block | number | reason
      · simp [Assembler.refusal?, phase] at isOver
      · simp [Assembler.refusal?, phase] at isOver
      · simp only [Assembler.refusal?, phase, Option.some.injEq] at isOver
        rw [← isOver] at fatal
        contradiction
      · exact ⟨reason, rfl⟩
  | harmless other writable harmless =>
      rw [Event.failed_error, Option.some.injEq] at found
      rw [found, harmless] at fatal
      contradiction
  | halted other after writable isFatal => exact ⟨other.message, rfl⟩
  | succeeded event next after writable succeeded ending follows =>
      rw [succeeded] at found
      contradiction

theorem unchanged_of_harmless {session : Session σ} {demand : Demand} {error : StreamError}
    {next : Assembler} {after : World σ} (harmless : error.isFatal = false)
    (called : session.assembler.Called session.world demand (demand.failed error) next after) :
    next = session.assembler ∧ after = session.world := by
  generalize answered : demand.failed error = event at called
  have found := congrArg Event.error? answered
  rw [Event.failed_error] at found
  cases called with
  | refused other isOver => exact ⟨rfl, rfl⟩
  | harmless other writable harmless => exact ⟨rfl, rfl⟩
  | halted other after writable isFatal =>
      rw [Event.failed_error, Option.some.injEq] at found
      rw [found, isFatal] at harmless
      contradiction
  | succeeded event next after writable succeeded ending follows =>
      rw [succeeded] at found
      contradiction

theorem honest_of_called {session : Session σ} (orderly : session.Orderly) {demand : Demand}
    {error : StreamError} {next : Assembler} {after : World σ}
    (called : session.assembler.Called session.world demand (demand.failed error) next after) :
    session.Honest demand error next after where
  harmless := fun harmless => unchanged_of_harmless harmless called
  fatal := by
    intro fatal
    obtain ⟨reason, halted⟩ := halted_of_fatal fatal called
    have ended := (orderly.called called).ended
    simp only [Assembler.refusal?, halted] at ended
    obtain ⟨first, isFirst, same⟩ := Event.first_fatal ended.symm
    exact ⟨first, isFirst, same ▸ halted⟩

theorem over_of_refusal {session : Session σ} (orderly : session.Orderly)
    (running : session.stopped = none) {refusal : StreamError}
    (isOver : session.assembler.refusal? = some refusal) : session.Over platform refusal where
  cause := by
    have ended := orderly.ended
    rcases phase : session.assembler.phase with _ | block | number | reason
    · simp [Assembler.refusal?, phase] at isOver
    · simp [Assembler.refusal?, phase] at isOver
    · simp only [Assembler.refusal?, phase, Option.some.injEq] at isOver ended
      exact .inl ⟨number, isOver.symm, rfl, Event.frozen_block ended.symm⟩
    · simp only [Assembler.refusal?, phase, Option.some.injEq] at isOver ended
      obtain ⟨first, isFirst, rfl⟩ := Event.first_fatal ended.symm
      exact .inr ⟨first, isOver.symm, rfl, isFirst⟩
  refuses := by
    intro later reached
    have ⟨same, goesOn⟩ := reached.stays_over running isOver
    exact ⟨same, refused_of_over goesOn (same ▸ isOver)⟩

/-- An error either changes nothing or ends production for good. A call that is answered with a
harmless error leaves the stream, readers, counters, ledger, store and writers as they were. After
a fatal error the stream is halted, with the words of its first fatal error. A stream that is
frozen or halted stays so: it refuses every call with the number of its freeze block, or with those
words, and no call has an effect. -/
theorem errors_change_nothing_or_end_production (failsFatally : platform.FailsFatally)
    {settings : StreamSettings} {startup : Startup} {assembler : Assembler} {view : View}
    (started : Assembler.start settings startup = .ok (assembler, view))
    {unproven : UnprovenRun WriterId} {counters : Counters} {requests : List Digest} {state : σ}
    {session : Session σ}
    (reached : Later platform
      ⟨assembler, ⟨view, unproven, counters, requests, state⟩, [], none⟩ session)
    (running : session.stopped = none) :
    (∀ demand error next after, session.step platform demand.operation =
        ⟨next, after, session.history ++ [demand.failed error], none⟩ →
      session.Honest demand error next after) ∧
    ∀ refusal, session.assembler.checkWritable = .error refusal →
      session.Over platform refusal := by
  have orderly := reached.orderly failsFatally (orderly_start started _) running
  constructor
  · intro demand error next after stepped
    rcases demand_outcome failsFatally running orderly.follows demand with
      ⟨overflow, stopped⟩ | ⟨event, other, left, called, ended⟩
    · rw [stepped] at stopped
      contradiction
    · rw [ended, Session.mk.injEq, List.append_cancel_left_eq, List.singleton_inj] at stepped
      obtain ⟨rfl, rfl, rfl, _⟩ := stepped
      exact honest_of_called orderly called
  · intro refusal refused
    exact over_of_refusal orderly running (Assembler.check_writable_error.mp refused)

/-- A block is opened on a log that then stops taking items. -/
def openedOnBrokenLog : Session Depot :=
  let genesis : View := ⟨Chain.start .empty (some .genesis), .empty, none⟩
  let opened := (fresh ⟨.default, .idle, none⟩ genesis (Depot.empty .log (.memory none))).step
    Depot.platform (.startRound ⟨1, ⟨1, 0⟩, false, []⟩)
  { opened with
    world := opened.world.setPlatform (opened.world.platform.setFailing (some .writeItem)) }

theorem broken_log_ends_production :
    let halted := openedOnBrokenLog.step Depot.platform (.writeItem (.transaction ⟨[1]⟩))
    let reason := "Writer failed for block 0: injected Write failure"
    Depot.platform.FailsFatally ∧ halted.stopped = none ∧
      halted.assembler.checkWritable = .error (.halted reason) ∧
      halted.Over Depot.platform (.halted reason) := by
  intro halted reason
  have started : Assembler.start .default .genesis =
      .ok (⟨.default, .idle, none⟩, ⟨Chain.start .empty (some .genesis), .empty, none⟩) := rfl
  have genesis : Later Depot.platform
      (fresh ⟨.default, .idle, none⟩ ⟨Chain.start .empty (some .genesis), .empty, none⟩
        (Depot.empty .log (.memory none))) _ := .here
  have opened := genesis.stepped (.startRound ⟨1, ⟨1, 0⟩, false, []⟩)
  have broken := opened.disturbed openedOnBrokenLog.world rfl
  have reached := broken.stepped (.writeItem (.transaction ⟨[1]⟩))
  have running : halted.stopped = none := by decide +kernel
  have refused : halted.assembler.checkWritable = .error (.halted reason) := by decide +kernel
  exact ⟨Depot.fails_fatally, running, refused,
    (errors_change_nothing_or_end_production Depot.fails_fatally started reached running).2
      _ refused⟩

end Session

end ProvenBlocks
