import ProvenBlocks.Proofs.Succession

/-!
What a node does is what a session does. A station works on the assembler and the world of a
session, tasks only add signatures to it, and a run of a node that comes to its end has performed
operations of a session one after the other.
-/

namespace ProvenBlocks

/-! ### Worlds without requests -/

/-- The world with nothing asked for. -/
def World.unasked {σ : Type} (world : World σ) : World σ := { world with requests := [] }

section

variable {σ α : Type} (platform : Platform σ) {first second : World σ}

theorem World.answer_unasked (same : first.unasked = second.unasked) (effect : Effect) :
    (first.answer platform effect).1 = (second.answer platform effect).1 ∧
      (first.answer platform effect).2.unasked = (second.answer platform effect).2.unasked := by
  obtain ⟨view, unproven, counters, requests, state⟩ := first
  obtain ⟨_, _, _, others, _⟩ := second
  cases same
  cases effect with
  | enqueue block =>
      simp only [World.answer]
      cases unproven.push block <;> exact ⟨rfl, rfl⟩
  | _ => exact ⟨rfl, rfl⟩

/-- No script looks at what was asked for. -/
theorem Script.run_unasked (script : Script α) (same : first.unasked = second.unasked) :
    (script.run platform first).1 = (script.run platform second).1 ∧
      (script.run platform first).2.unasked = (script.run platform second).2.unasked := by
  induction script generalizing first second with
  | done value => exact ⟨rfl, same⟩
  | stop overflow => exact ⟨rfl, same⟩
  | perform effect next inductive_hypothesis =>
      obtain ⟨answer, after⟩ := World.answer_unasked platform same effect
      simp only [Script.run]
      rw [answer]
      exact inductive_hypothesis _ after

end

/-! ### Closed blocks -/

/-- The block that was closed, if any. -/
def Event.block? : Event → Option ClosedBlock
  | .roundEnded _ (.ok closed) => closed
  | _ => none

/-- The closed blocks without their items. -/
def Production.blocks (production : Production) : List ClosedBlock :=
  production.closed.map Prod.fst

theorem Production.blocks_observe (production : Production) (event : Event) :
    (production.observe event).blocks = production.blocks ++ event.block?.toList := by
  cases event with
  | roundStarted round answer => exact (List.append_nil _).symm
  | itemWritten item answer => cases answer <;> exact (List.append_nil _).symm
  | roundEnded round answer =>
      rcases answer with error | _ | closed
      · exact (List.append_nil _).symm
      · exact (List.append_nil _).symm
      · exact List.map_append
  | signed signature resolved answer => exact (List.append_nil _).symm

theorem Production.blocks_of_history (history : List Event) :
    (Production.ofHistory history).blocks = history.filterMap Event.block? := by
  induction history using List.reverseRecOn with
  | nil => rfl
  | append_singleton earlier event inductive_hypothesis =>
      rw [Production.of_history_append, List.foldl_cons, List.foldl_nil, blocks_observe,
        inductive_hypothesis, List.filterMap_append]
      congr 1

/-! ### Stations and sessions -/

/-- The station works on the assembler and the world of the session. -/
structure Station.Plays (station : Station) (session : Session (Journal Depot)) : Prop where
  assembler : station.assembler = some session.assembler
  world : station.world.unasked = session.world.forget.unasked
  former : station.former = []
  running : session.stopped = none

/-- The station has gone on as the session would with some signatures. -/
def Station.Heeds (station : Station) (session : Session (Journal Depot)) : Prop :=
  ∃ signatures : List Signature,
    station.Plays (session.run Depot.platform.journaled (signatures.map .sign))

/-- What a station can do to its tasks and its bus while its work stays as it is. -/
structure Station.SameWork (before after : Station) : Prop where
  assembler : after.assembler = before.assembler
  world : after.world = before.world
  former : after.former = before.former

section

variable {station after : Station} {session : Session (Journal Depot)} {α : Type}

/-- The same script, run by the station and by the session. -/
theorem Station.Plays.run (plays : station.Plays session) (script : Script α) :
    (script.run Depot.platform station.world).1 =
        (script.run Depot.platform.journaled session.world).1 ∧
      (script.run Depot.platform station.world).2.unasked =
        (script.run Depot.platform.journaled session.world).2.forget.unasked := by
  have journaled := script.run_journaled Depot.platform session.world
  have unasked := script.run_unasked Depot.platform plays.world
  rw [← journaled] at unasked
  exact unasked

theorem Session.run_append (platform : Platform α) (session : Session α)
    (first second : List Operation) :
    session.run platform (first ++ second) = (session.run platform first).run platform second :=
  List.foldl_append

theorem Session.assembled {α σ : Type} {platform : Platform σ} {session : Session σ}
    (running : session.stopped = none) {work : Script (Except StreamError α × Assembler)}
    {event : Except StreamError α → Event} {answer : Except StreamError α} {next : Assembler}
    {after : World σ} (ran : work.run platform session.world = (.ok (answer, next), after)) :
    session.assemble platform work event =
      ⟨next, after, session.history ++ [event answer], none⟩ := by
  simp only [assemble, running, ran]

theorem Session.coherent_run {σ : Type} (platform : Platform σ) {session : Session σ}
    (coherent : session.assembler.Coherent session.world) (operations : List Operation) :
    (session.run platform operations).assembler.Coherent
      (session.run platform operations).world := by
  induction operations generalizing session with
  | nil => exact coherent
  | cons operation later inductive_hypothesis =>
      exact inductive_hypothesis (Session.coherent_step platform coherent operation)

/-- Items written one after the other, without an error. -/
theorem Session.run_items {platform : Platform α} {session : Session α}
    (running : session.stopped = none) (items : List Item) {next : Assembler} {after : World α}
    (ran : (session.assembler.writeItems items).run platform session.world =
      (.ok (.ok (), next), after)) :
    ∃ events, session.run platform (items.map .writeItem) =
        ⟨next, after, session.history ++ events, none⟩ ∧
      events.filterMap Event.block? = [] := by
  induction items generalizing session with
  | nil =>
      obtain ⟨assembler, world, history, stopped⟩ := session
      cases running
      cases ran
      exact ⟨[], congrArg (Session.mk _ _ · _) (List.append_nil _).symm, rfl⟩
  | cons item later inductive_hypothesis =>
      unfold Assembler.writeItems at ran
      rw [Script.run_bind] at ran
      rcases wrote : (session.assembler.writeItem item).run platform session.world with
        ⟨overflow | ⟨error | _, fed⟩, world⟩
      · rw [wrote] at ran
        cases ran
      · rw [wrote] at ran
        cases ran
      · rw [wrote] at ran
        have stepped : session.step platform (.writeItem item) = ⟨fed, world, _, none⟩ :=
          assembled running wrote
        have onward : (Session.mk fed world (session.history ++ [.itemWritten item (.ok ())])
            none).stopped = none := rfl
        obtain ⟨events, went, unclosed⟩ := inductive_hypothesis onward ran
        rw [List.map_cons, Session.run, List.foldl_cons, stepped]
        refine ⟨.itemWritten item (.ok ()) :: events, went.trans ?_, unclosed⟩
        exact congrArg (Session.mk next after · none) (List.append_assoc _ _ _)

/-- The operations of one round. -/
def Round.operations (round : Round) : List Operation :=
  .startRound round :: (round.items.map .writeItem ++ [.endRound round])

/-- A round that ends without closing a block leaves one open. -/
theorem Assembler.end_round_open {platform : Platform α} {assembler next : Assembler}
    {world after : World α} {round : Round} {closed : Option ClosedBlock}
    (coherent : assembler.Coherent world)
    (ran : (assembler.endRound round).run platform world = (.ok (.ok closed, next), after)) :
    next.openNumber.isSome = closed.isNone := by
  have outcome := end_round_outcome platform coherent round
  rw [ran] at outcome
  cases outcome with
  | continued block counted phase added early => rfl
  | closed block counted closed after phase added due finished =>
      unfold openNumber
      rcases open_ : phaseAfter closed with _ | other | _ | _
      · rfl
      · exact absurd open_ (phase_after_ne_assembling closed other)
      · rfl
      · rfl

/-- A round that is taken in is started, filled with its items and ended. -/
theorem Assembler.process_round_ok {platform : Platform α} {assembler next : Assembler}
    {world after : World α} {round : Round} {closed : Option ClosedBlock}
    (ran : (assembler.processRound round).run platform world = (.ok (.ok closed, next), after)) :
    ∃ opened begun fed filled,
      (assembler.startRound round).run platform world = (.ok (.ok (), opened), begun) ∧
      (opened.writeItems round.items).run platform begun = (.ok (.ok (), fed), filled) ∧
      (fed.endRound round).run platform filled = (.ok (.ok closed, next), after) := by
  unfold processRound at ran
  rw [Script.run_bind] at ran
  rcases started : (assembler.startRound round).run platform world with
    ⟨overflow | ⟨error | _, opened⟩, begun⟩
  · rw [started] at ran
    cases ran
  · rw [started] at ran
    cases ran
  rw [started] at ran
  simp only [Script.run_bind] at ran
  rcases wrote : (opened.writeItems round.items).run platform begun with
    ⟨overflow | ⟨error | _, fed⟩, filled⟩
  · rw [wrote] at ran
    cases ran
  · rw [wrote] at ran
    cases ran
  rw [wrote] at ran
  exact ⟨opened, begun, fed, filled, rfl, wrote, ran⟩

/-- A round that is taken in as a whole. -/
theorem Session.run_round {platform : Platform α} {session : Session α}
    (coherent : session.assembler.Coherent session.world) (running : session.stopped = none)
    {round : Round} {closed : Option ClosedBlock} {next : Assembler} {after : World α}
    (ran : (session.assembler.processRound round).run platform session.world =
      (.ok (.ok closed, next), after)) :
    ∃ events, session.run platform round.operations =
        ⟨next, after, session.history ++ events, none⟩ ∧
      events.filterMap Event.block? = closed.toList ∧ next.openNumber.isSome = closed.isNone := by
  obtain ⟨opened, world, fed, filled, started, wrote, ended⟩ := Assembler.process_round_ok ran
  have first : session.step platform (.startRound round) =
      ⟨opened, world, session.history ++ [.roundStarted round (.ok ())], none⟩ :=
    assembled running started
  have onward : (Session.mk opened world (session.history ++ [.roundStarted round (.ok ())])
      none).stopped = none := rfl
  obtain ⟨events, middle, unclosed⟩ := run_items onward round.items wrote
  have begun : session.run platform (.startRound round :: round.items.map .writeItem) =
      ⟨fed, filled, session.history ++ [.roundStarted round (.ok ())] ++ events, none⟩ := by
    rw [Session.run, List.foldl_cons, first]
    exact middle
  have still := coherent_run platform coherent (.startRound round :: round.items.map .writeItem)
  rw [begun] at still
  have filled_on : (Session.mk fed filled
      (session.history ++ [.roundStarted round (.ok ())] ++ events) none).stopped = none := rfl
  have last : Session.step platform
      ⟨fed, filled, session.history ++ [.roundStarted round (.ok ())] ++ events, none⟩
        (.endRound round) = ⟨next, after, _ ++ [.roundEnded round (.ok closed)], none⟩ :=
    assembled filled_on ended
  refine ⟨[.roundStarted round (.ok ())] ++ events ++ [.roundEnded round (.ok closed)], ?_, ?_,
    Assembler.end_round_open still ended⟩
  · rw [Round.operations, ← List.cons_append, run_append, begun]
    refine last.trans ?_
    simp only [List.append_assoc]
  · have only : [Event.roundEnded round (.ok closed)].filterMap Event.block? =
        closed.toList := by cases closed <;> rfl
    rw [List.filterMap_append, List.filterMap_append, unclosed, only]
    rfl

theorem Station.collected (station : Station) :
    station.collectRequests.assembler = station.assembler ∧
      station.collectRequests.world.unasked = station.world.unasked ∧
      station.collectRequests.former = station.former := by
  unfold collectRequests
  split <;> exact ⟨rfl, rfl, rfl⟩

theorem Station.assembled {assembler : Assembler} {value : α}
    (present : station.assembler = some assembler)
    {work : Assembler → Script (Except StreamError α × Assembler)}
    (done : station.assemble work = (.ok value, after)) :
    ∃ next world, (work assembler).run Depot.platform station.world =
        (.ok (.ok value, next), world) ∧
      after.assembler = some next ∧ after.world.unasked = world.unasked ∧
      after.former = station.former := by
  unfold Station.assemble at done
  rw [present] at done
  dsimp only at done
  rcases ran : (work assembler).run Depot.platform station.world with
    ⟨overflow | ⟨error | found, next⟩, world⟩
  · rw [ran] at done
    cases done
  · rw [ran] at done
    cases done
  · rw [ran] at done
    cases done
    exact ⟨next, world, rfl, rfl, (collected _).2.1, (collected _).2.2⟩

/-- Signatures leave everything but the ledger as it was. -/
theorem Session.run_signatures {σ : Type} (platform : Platform σ) (session : Session σ)
    (signatures : List Signature) :
    (session.run platform (signatures.map .sign)).assembler = session.assembler ∧
      (session.run platform (signatures.map .sign)).world.view = session.world.view ∧
      (session.run platform (signatures.map .sign)).production = session.production := by
  induction signatures generalizing session with
  | nil => exact ⟨rfl, rfl, rfl⟩
  | cons signature later inductive_hypothesis =>
      obtain ⟨assembler, view, production⟩ :=
        inductive_hypothesis (session.step platform (.sign signature))
      obtain ⟨answer, after, applied, stepped⟩ := session.signed_of_step platform signature
      rw [List.map_cons, Session.run, List.foldl_cons]
      refine ⟨assembler.trans ?_, view.trans ?_, production.trans ?_⟩
      · rw [stepped]
      · rw [stepped]
        cases applied <;> rfl
      · rw [stepped, Session.production, Production.of_history_append]
        rfl

/-- A round that a station takes in. -/
theorem Station.Plays.round (plays : station.Plays session)
    (coherent : session.assembler.Coherent session.world) {round : Round}
    {closed : Option ClosedBlock}
    (took : station.assemble (·.processRound round) = (.ok closed, after)) :
    let played := session.run Depot.platform.journaled round.operations
    after.Plays played ∧ played.production.blocks = session.production.blocks ++ closed.toList ∧
      played.assembler.openNumber.isSome = closed.isNone := by
  intro played
  obtain ⟨next, world, ran, assembler, reads, former⟩ := Station.assembled plays.assembler took
  have same := plays.run (session.assembler.processRound round)
  rw [ran] at same
  rcases journaled : (session.assembler.processRound round).run Depot.platform.journaled
    session.world with ⟨answer, reached⟩
  rw [journaled] at same
  obtain ⟨rfl, alike⟩ := same
  obtain ⟨events, went, closes, opens⟩ := Session.run_round coherent plays.running journaled
  have reached_ : played = ⟨next, reached, session.history ++ events, none⟩ := went
  rw [reached_]
  refine ⟨⟨assembler, reads.trans alike, former.trans plays.former, rfl⟩, ?_, opens⟩
  rw [Session.production, Production.blocks_of_history, List.filterMap_append, closes,
    ← Production.blocks_of_history]
  rfl

/-! ### Tasks -/

namespace Station

theorem SameWork.plays (same : SameWork station after) (plays : station.Plays session) :
    after.Plays session where
  assembler := same.assembler.trans plays.assembler
  world := (congrArg World.unasked same.world).trans plays.world
  former := same.former.trans plays.former
  running := plays.running

theorem SameWork.refl (station : Station) : SameWork station station := ⟨rfl, rfl, rfl⟩

theorem SameWork.trans {middle : Station} (first : SameWork station middle)
    (second : SameWork middle after) : SameWork station after where
  assembler := second.assembler.trans first.assembler
  world := second.world.trans first.world
  former := second.former.trans first.former

theorem wake_same_work (station : Station) (subscription : Nat) :
    SameWork station (station.wake subscription) := by
  simp only [wake]
  split
  · exact .refl station
  · split <;> exact ⟨rfl, rfl, rfl⟩

theorem wake_all_same_work (station : Station) : SameWork station station.wakeAll := by
  unfold wakeAll
  generalize station.listeners = listeners
  induction listeners generalizing station with
  | nil => exact .refl station
  | cons listener later inductive_hypothesis =>
      exact (station.wake_same_work listener.subscription).trans (inductive_hypothesis _)

theorem close_unkept_same_work (station : Station) : SameWork station station.closeUnkept := by
  unfold closeUnkept
  split
  · exact .refl station
  · have woken := wake_all_same_work { station with bus := station.bus.close }
    exact ⟨woken.assembler, woken.world, woken.former⟩

theorem deliver_same_work (station : Station) (signature : Signature) :
    SameWork station (station.deliver signature).2 := by
  have woken := wake_all_same_work
    { station with bus := (station.bus.publish signature).2 }
  exact ⟨woken.assembler, woken.world, woken.former⟩

theorem end_listener_same_work (alone : station.former = []) (listener : Listener) :
    SameWork station (station.endListener listener) := by
  have closed := close_unkept_same_work ({ station with
    bus := station.bus.unsubscribe listener.subscription
    listeners := station.listeners.filter fun known =>
      known.subscription != listener.subscription : Station }.releaseUnheard)
  refine SameWork.trans ?_ closed
  constructor
  · rfl
  · simp [releaseUnheard, alone, setDepot, Station.depot]
  · simp [releaseUnheard, alone, setDepot]

/-- Any further signatures. -/
theorem Heeds.trans {signatures : List Signature}
    (heeds : after.Heeds (session.run Depot.platform.journaled (signatures.map .sign))) :
    after.Heeds session := by
  obtain ⟨more, plays⟩ := heeds
  refine ⟨signatures ++ more, ?_⟩
  rw [List.map_append, Session.run_append]
  exact plays

theorem Plays.heeds (plays : station.Plays session) : station.Heeds session := ⟨[], plays⟩

theorem performed {β : Type} (station : Station) (script : Script (Except StreamError β)) :
    (station.perform script).2.assembler = station.assembler ∧
      (station.perform script).2.world.unasked =
        (script.run Depot.platform station.world).2.unasked ∧
      (station.perform script).2.former = station.former := by
  unfold perform
  rcases script.run Depot.platform station.world with ⟨overflow | error | value, world⟩
  all_goals exact collected { station with world := world }

/-- The ledger applies a signature. -/
theorem Plays.applySignature (plays : station.Plays session) (signature : Signature) :
    (station.applySignature signature).2.Heeds session := by
  obtain ⟨assembler, world, former⟩ :=
    station.performed (Ledger.applySignature signature.message signature.content)
  obtain ⟨_, reads⟩ := plays.run (Ledger.applySignature signature.message signature.content)
  have applied := Ledger.apply_signature_outcome Depot.platform.journaled signature.message
    signature.content session.world
  refine ⟨[signature], ?_⟩
  rcases ran : (Ledger.applySignature signature.message signature.content).run
    Depot.platform.journaled session.world with ⟨overflow | answer, reached⟩
  · rw [ran] at applied
    cases applied
  · have signed : session.run Depot.platform.journaled [.sign signature] =
        { session with
          world := reached
          history := session.history ++ [.signed signature
            (session.world.unproven.resolve signature.message).1 answer] } := by
      simp only [Session.run, List.foldl_cons, List.foldl_nil, Session.step, Session.sign, ran]
    rw [ran] at reads
    rw [List.map_singleton, signed]
    constructor
    · exact assembler.trans plays.assembler
    · exact world.trans reads
    · exact former.trans plays.former
    · exact plays.running

theorem Plays.applyNext (plays : station.Plays session) (listener : Listener) :
    (station.applyNext listener).Heeds session := by
  unfold Station.applyNext
  split
  · rename_i signature bus _
    have same : SameWork station { station with bus := bus } := ⟨rfl, rfl, rfl⟩
    have onward := same.plays plays
    have nobody : (station.former.find? fun ledger => ledger.session == listener.session) =
        none := by rw [plays.former, List.find?_nil]
    simp only [applyIn, nobody]
    exact onward.applySignature signature
  · exact plays.heeds
  · exact plays.heeds

theorem Plays.applyMany (plays : station.Plays session) (listener : Listener) (waiting : Nat) :
    (Nat.repeat (·.applyNext listener) waiting station).Heeds session := by
  induction waiting with
  | zero => exact plays.heeds
  | succ count inductive_hypothesis =>
      obtain ⟨signatures, reached⟩ := inductive_hypothesis
      exact (reached.applyNext listener).trans

theorem Plays.hear (plays : station.Plays session) (listener : Listener) :
    (station.hear listener).Heeds session := by
  unfold Station.hear
  split
  · exact ((end_listener_same_work plays.former listener).plays plays).heeds
  · obtain ⟨signatures, reached⟩ : (station.applyAll listener).Heeds session :=
      plays.applyMany listener _
    dsimp only
    split
    · exact ⟨signatures, reached⟩
    · exact ⟨signatures, (end_listener_same_work reached.former listener).plays reached⟩

theorem Plays.runTask (plays : station.Plays session) (task : Task) :
    (station.runTask task).Heeds session := by
  cases task with
  | sign hash =>
      have same := (station.deliver_same_work (.standIn hash)).trans (close_unkept_same_work _)
      exact (same.plays plays).heeds
  | listen subscription =>
      simp only [Station.runTask]
      split
      · exact plays.heeds
      · exact plays.hear _

theorem Plays.settleWithin (plays : station.Plays session) (fuel : Nat) :
    (settleWithin fuel station).Heeds session := by
  induction fuel generalizing station session with
  | zero => exact plays.heeds
  | succ fuel inductive_hypothesis =>
      unfold Station.settleWithin
      split
      · exact plays.heeds
      · rename_i task next taken
        have same : SameWork station next := by
          unfold nextTask? at taken
          split at taken <;> cases taken <;> exact ⟨rfl, rfl, rfl⟩
        obtain ⟨signatures, reached⟩ := (same.plays plays).runTask task
        exact (inductive_hypothesis reached).trans

/-- Settling only applies signatures. -/
theorem Plays.settle (plays : station.Plays session) : station.settle.Heeds session := by
  have begun : SameWork station { station with isSettling := true } := ⟨rfl, rfl, rfl⟩
  obtain ⟨signatures, reached⟩ := (begun.plays plays).settleWithin
    (station.ready.length + (station.ready.length + 1) * station.listeners.length)
  exact ⟨signatures, reached.assembler, reached.world, reached.former, reached.running⟩

end Station

/-! ### Runs -/

/-- A round with the node that it is given to. -/
structure Take where
  node : Node
  round : Round

namespace Take

/-- How the node answers the round. -/
def answer (take : Take) : Except NodeFault (Option ClosedBlock) :=
  (take.node.processRound take.round).1

/-- The block that the round closes. -/
def closed? (take : Take) : Option ClosedBlock := take.answer.toOption.join

end Take

namespace Node

/-- The node after everything that was asked for is settled. -/
def settled (node : Node) : Node := { node with station := node.station.settle }

/-- The rounds that a run gives to the node. -/
def takesWithin {generator : Generator} : Nat → Feed generator → Node → List Take
  | 0, _, _ => []
  | fuel + 1, feed, node =>
      match feed.next? with
      | .ok (some (round, feed)) =>
          ⟨node, round⟩ :: match node.processRound round with
            | (.ok _, fed) => if fed.settled.isFrozen then [] else fed.settled.takesWithin fuel feed
            | (.error _, _) => []
      | .ok none | .error _ => []

def takes (node : Node) (clock : Instant) (generator : Generator) : List Take :=
  node.takesWithin node.feed.rounds.toNat (.start node.feed clock generator)

/-- Whether a block is open after some rounds, if it was or was not before. -/
def leavesOpen (before : Bool) (takes : List Take) : Bool :=
  (takes.getLast?.map fun take => take.closed?.isNone).getD before

variable {node later : Node} {summary : RunSummary}

section

variable {generator : Generator} {node fed : Node} {feed following : Feed generator}
  {round : Round} {closed : Option ClosedBlock} {fuel : Nat}

theorem closed_of_took (took : node.processRound round = (.ok closed, fed)) :
    (Take.mk node round).closed? = closed := by
  simp only [Take.closed?, Take.answer, took]
  rfl

theorem run_within_round (next : feed.next? = .ok (some (round, following)))
    (took : node.processRound round = (.ok closed, fed)) :
    node.runWithin (fuel + 1) feed =
      if fed.settled.isFrozen then (.ok fed.settled.summary, fed.settled)
      else fed.settled.runWithin fuel following := by
  simp only [runWithin, next, took]
  rfl

theorem takes_within_round (next : feed.next? = .ok (some (round, following)))
    (took : node.processRound round = (.ok closed, fed)) :
    node.takesWithin (fuel + 1) feed =
      ⟨node, round⟩ ::
        if fed.settled.isFrozen then [] else fed.settled.takesWithin fuel following := by
  simp only [takesWithin, next, took]

end

/-- What a node does by the end of a run is what its session does. -/
structure Played (node later : Node) (session : Session (Journal Depot)) (takes : List Take)
    (operations : List Operation) : Prop where
  plays : later.station.Plays (session.run Depot.platform.journaled operations)
  rounds : later.rounds = node.rounds + takes.length
  closed : (session.run Depot.platform.journaled operations).production.blocks =
    session.production.blocks ++ takes.filterMap Take.closed?
  opens : (session.run Depot.platform.journaled operations).assembler.openNumber.isSome =
    leavesOpen session.assembler.openNumber.isSome takes

/-- A round that is taken in, with what it asked for settled. -/
theorem take_played (plays : node.station.Plays session)
    (coherent : session.assembler.Coherent session.world) {round : Round}
    {closed : Option ClosedBlock} {fed : Node} (took : node.processRound round = (.ok closed, fed)) :
    ∃ operations, node.Played fed.settled session [⟨node, round⟩] operations := by
  have answered := closed_of_took took
  unfold processRound at took
  rcases assembled : node.station.assemble (·.processRound round) with ⟨fault | found, station⟩
  · rw [assembled] at took
    cases took
  · rw [assembled] at took
    cases took
    obtain ⟨fed, closes, opens⟩ := plays.round coherent assembled
    obtain ⟨signatures, settles⟩ := fed.settle
    obtain ⟨assembler, view, production⟩ := Session.run_signatures Depot.platform.journaled
      (session.run Depot.platform.journaled round.operations) signatures
    refine ⟨round.operations ++ signatures.map .sign, ?_, rfl, ?_, ?_⟩
    · rw [Session.run_append]
      exact settles
    · rw [Session.run_append, production, closes, List.filterMap_cons, answered]
      cases closed <;> rfl
    · rw [Session.run_append, assembler, opens]
      simp only [leavesOpen, List.getLast?_singleton, Option.map_some, answered, Option.getD_some]

/-- What is played after some takes, played on. -/
theorem Played.trans {middle : Node} {takes more : List Take} {first second : List Operation}
    (played : node.Played middle session takes first)
    (rest : middle.Played later (session.run Depot.platform.journaled first) more second) :
    node.Played later session (takes ++ more) (first ++ second) where
  plays := by
    rw [Session.run_append]
    exact rest.plays
  rounds := by
    rw [rest.rounds, played.rounds, List.length_append, Nat.add_assoc]
  closed := by
    rw [Session.run_append, rest.closed, played.closed, List.filterMap_append, List.append_assoc]
  opens := by
    rw [Session.run_append, rest.opens, played.opens]
    rcases List.eq_nil_or_concat more with rfl | ⟨earlier, last, rfl⟩
    · rw [List.append_nil]
      rfl
    · simp only [leavesOpen, List.concat_eq_append, ← List.append_assoc, List.getLast?_concat,
        Option.map_some, Option.getD_some]

theorem Played.nothing (plays : node.station.Plays session) : node.Played node session [] [] :=
  ⟨plays, rfl, (List.append_nil _).symm, rfl⟩

/-- A run that comes to its end has played its rounds. -/
theorem run_within_played {generator : Generator} {fuel : Nat} {feed : Feed generator}
    (plays : node.station.Plays session)
    (coherent : session.assembler.Coherent session.world)
    (ran : node.runWithin fuel feed = (.ok summary, later)) :
    summary = later.summary ∧
      ∃ operations, node.Played later session (node.takesWithin fuel feed) operations := by
  induction fuel generalizing node session feed with
  | zero =>
      cases ran
      exact ⟨rfl, [], .nothing plays⟩
  | succ fuel inductive_hypothesis =>
      rcases next : feed.next? with overflow | _ | ⟨round, following⟩
      · simp only [runWithin, next] at ran
        cases ran
      · simp only [runWithin, next] at ran
        simp only [takesWithin, next]
        cases ran
        exact ⟨rfl, [], .nothing plays⟩
      · rcases took : node.processRound round with ⟨fault | closed, fed⟩
        · simp only [runWithin, next, took] at ran
          cases ran
        · rw [run_within_round next took] at ran
          rw [takes_within_round next took]
          obtain ⟨operations, played⟩ := take_played plays coherent took
          split at ran
          · rename_i frozen
            cases ran
            rw [if_pos frozen]
            exact ⟨rfl, operations, played⟩
          · rename_i thawed
            rw [if_neg thawed]
            have still := Session.coherent_run Depot.platform.journaled coherent operations
            obtain ⟨told, more, rest⟩ := inductive_hypothesis played.plays still ran
            exact ⟨told, operations ++ more, played.trans rest⟩

end Node

end

/-- A node starts with the station of its session, from the checkpoint that it found. -/
theorem Node.start_plays {settings : StreamSettings} {feed : FeedSettings}
    {tree ready : FileTree} {node : Node}
    (started : Node.start settings feed tree = (.ok node, ready)) :
    ∃ stored assembler view, StateFile.load tree settings.statePath = .ok stored ∧
      Assembler.start settings (.ofStored stored) = .ok (assembler, view) ∧
      Session.ofNode settings feed tree =
        some (.fresh assembler view ⟨[], node.station.depot⟩) ∧
      node.station.Plays (.fresh assembler view ⟨[], node.station.depot⟩) := by
  obtain ⟨stored, assembler, view, loaded, begun, present, former, world⟩ :=
    Session.start_ok started
  refine ⟨stored, assembler, view, loaded, begun, ?_, present, ?_, former, rfl⟩
  · simp only [Session.ofNode, started, present, Option.map_some, world]
  · rw [Station.depot, world]
    rfl

/-- A node that runs to its end and is shut down has done what a session does: its summary counts
the unproven blocks of that session, and it leaves the same files. -/
theorem Node.run_is_session {settings : StreamSettings} {feed : FeedSettings}
    {tree ready : FileTree} {node later : Node} {clock : Instant} {generator : Generator}
    {summary : RunSummary} (started : Node.start settings feed tree = (.ok node, ready))
    (ran : node.run clock generator = (.ok summary, later)) :
    ∃ begun operations, Session.ofNode settings feed tree = some begun ∧
      summary.unproven =
        (begun.run Depot.platform.journaled operations).world.unproven.size ∧
      later.tree = (begun.run Depot.platform.journaled operations).tree ∧
      later.shutdown.2 = (begun.run Depot.platform.journaled operations).shutDown.tree := by
  obtain ⟨_, assembler, view, _, begun, same, plays⟩ := Node.start_plays started
  have coherent := Assembler.coherent_fresh (Assembler.start_idle begun) view
    (⟨[], node.station.depot⟩ : Journal Depot)
  obtain ⟨told, operations, played⟩ := Node.run_within_played plays coherent ran
  have reached := played.plays
  have unproven := congrArg World.unproven reached.world
  have depot := congrArg World.platform reached.world
  refine ⟨_, operations, same, ?_, ?_, ?_⟩
  · rw [told]
    exact congrArg UnprovenRun.size unproven
  · exact congrArg Depot.tree depot
  · exact congrArg Depot.tree
      (Session.stop_is_shut_down reached.assembler unproven depot reached.former)

end ProvenBlocks
