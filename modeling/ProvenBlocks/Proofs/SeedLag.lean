import ProvenBlocks.Proofs.Checkpoints

/-!
The seed and the output roots behind it. Restored roots and the roots of closed blocks make up one
list; the seed is the root four places before its last one, and the checkpoint holds the last four.
Only a block that is closed moves the seed, or one that was saved and then refused by the ledger.
-/

namespace ProvenBlocks

/-- The root four places before the last one; four roots or fewer have none. -/
def laggingRoot (roots : List Digest) : Option Digest :=
  if roots.length ≤ OutputRoots.historySize then none
  else roots[roots.length - 1 - OutputRoots.historySize]?

def Item.resultHash? : Item → Option Digest
  | .result told => some (Item.result told).hash
  | _ => none

/-- The fold of the hashes of the results among the items. -/
def resultRoot (items : List Item) : Digest :=
  Digest.zero.linkAll (items.filterMap Item.resultHash?)

theorem lagging_root_eq (roots : List Digest) :
    laggingRoot roots = (roots.rdrop OutputRoots.historySize).getLast? := by
  unfold laggingRoot List.rdrop
  split
  · rename_i few
    rw [Nat.sub_eq_zero_of_le few]
    rfl
  · rename_i many
    rw [List.getLast?_take, if_neg (by omega), List.getElem?_eq_getElem (by omega),
      List.getElem?_eq_getElem (by omega), Option.some_or]
    congr 1

theorem root_of_results (items : List Item) : rootOf .output items = resultRoot items := by
  unfold rootOf resultRoot
  congr 1
  induction items with
  | nil => rfl
  | cons item later inductive_hypothesis =>
      rw [List.filter_cons, List.filterMap_cons, ← inductive_hypothesis]
      cases item <;> rfl

/-! ### What readers see -/

/-- The seed and the root history that the roots leave. -/
structure View.ShowsRoots (view : View) (roots : List Digest) : Prop where
  capacity : view.outputs.history.capacity = OutputRoots.historySize
  history : view.outputs.history.Holds roots
  seed : view.outputs.seed = laggingRoot roots

namespace View.ShowsRoots

variable {view shown : View} {roots : List Digest}

theorem same (shows : view.ShowsRoots roots)
    (history : shown.outputs.history = view.outputs.history)
    (seed : shown.outputs.seed = view.outputs.seed) : shown.ShowsRoots roots where
  capacity := by rw [history, shows.capacity]
  history := by rw [history]; exact shows.history
  seed := by rw [seed, shows.seed]

theorem close (shows : view.ShowsRoots roots) (block : OpenBlock) :
    (view.close block).ShowsRoots (roots ++ [view.outputs.running.value]) where
  capacity := (Window.push_capacity _ _).trans shows.capacity
  history := shows.history.push _
  seed := by
    have evicted := shows.history.evicted view.outputs.running.value
    rw [shows.capacity, ← lagging_root_eq, ← lagging_root_eq, ← shows.seed] at evicted
    exact evicted

theorem trailing (shows : view.ShowsRoots roots) :
    view.outputs.trailing = roots.rtake OutputRoots.historySize := by
  rw [← shows.capacity]
  exact shows.history

/-- A start shows the newest restored roots, and no seed yet. -/
theorem restored (restored : List Digest) {view : View}
    (outputs : view.outputs.history = Window.ofList OutputRoots.historySize restored)
    (unseeded : view.outputs.seed = none) :
    view.ShowsRoots (restored.rtake OutputRoots.historySize) := by
  have entries : view.outputs.history.entries = restored.rtake OutputRoots.historySize := by
    rw [outputs]
    exact Window.of_list_entries (by decide) restored
  have capacity : view.outputs.history.capacity = OutputRoots.historySize := by
    rw [outputs]
    exact Window.of_list_capacity _ _
  have bounded := view.outputs.history.bounded
  rw [entries, capacity] at bounded
  exact ⟨capacity, entries ▸ view.outputs.history.holds_entries,
    by rw [unseeded, laggingRoot, if_pos bounded]⟩

end View.ShowsRoots

/-- The view with whatever was fed to the running output root before. -/
def View.withRunning (view : View) (leftover : RunningDigest) : View :=
  { view with outputs := { view.outputs with running := leftover } }

/-! ### One move -/

section

variable {σ : Type} {platform : Platform σ} {assembler next : Assembler} {world after : World σ}
  {events : List Event}

/-- The items accepted since the last block are those of the open block, and its results make up
the running output root. -/
structure Drafts (assembler : Assembler) (view : View) (production : Production) : Prop where
  idle : assembler.phase = .idle → production.taken = []
  output : ∀ block, assembler.phase = .assembling block →
    view.outputs.running.value = rootOf .output production.taken

theorem Drafts.moved {production : Production} (drafts : Drafts assembler world.view production)
    (moved : Moved platform assembler world events next after) :
    Drafts next after.view (events.foldl Production.observe production) := by
  have halted {error : StreamError} {view : View} {event : Event} :
      Drafts (assembler.halted error) view ([event].foldl Production.observe production) :=
    ⟨(fun idle => by cases idle), (fun block open_ => by cases open_)⟩
  cases moved with
  | quiet events quiet =>
      rw [Production.observe_quiet quiet]
      exact drafts
  | opened round number previousHash writer created opened written phase prior next create start
      write =>
      refine ⟨(fun idle => by cases idle), fun block open_ => ?_⟩
      show Digest.zero = rootOf .output production.taken
      rw [drafts.idle phase, root_of_nil]
  | abandoned round number previousHash fault state event quiet phase prior next left =>
      exact halted
  | written block item state phase unmanaged call =>
      exact ⟨(fun idle => by cases idle),
        fun _ _ => output_root_add (drafts.output block phase) item⟩
  | notWritten block item fault state event quiet phase call kind => exact halted
  | counted round block counted phase added early =>
      exact ⟨(fun idle => by cases idle), fun _ _ => drafts.output block phase⟩
  | notSaved round block counted error written saved event quiet phase added due write save =>
      exact halted
  | closed round block counted written saved phase added due write save =>
      exact ⟨fun _ => rfl,
        fun other open_ => absurd open_ (Assembler.phase_after_ne_assembling _ _)⟩
  | signed signature answer after applied =>
      have view : after.view = world.view := by cases applied <;> rfl
      rw [view]
      exact drafts

end

/-! ### Sessions -/

namespace Session

variable {σ : Type} {platform : Platform σ}

/-- The newest restored roots, and after them those of the blocks told closed. -/
def knownRoots (session : Session (Journal σ)) (restored : List Digest) : List Digest :=
  restored.rtake OutputRoots.historySize ++
    session.production.closed.map fun entry => entry.1.outputRoot

/-- The seed and the root history follow the known roots. A block that was turned away has its root
among them as well, though nothing tells it closed. -/
inductive Tracks (session : Session (Journal σ)) (restored : List Digest) : Prop
  | current (shows : session.world.view.ShowsRoots (session.knownRoots restored))
      (drafts : Drafts session.assembler session.world.view session.production)
  | ahead (refused : session.IsRefused)
      (shows : session.world.view.ShowsRoots
        (session.knownRoots restored ++ [rootOf .output session.production.taken]))

/-- Every closed block has the root of its own results. -/
def TellsRoots (session : Session (Journal σ)) : Prop :=
  ∀ entry ∈ session.production.closed, entry.1.outputRoot = rootOf .output entry.2

section

variable {before after session : Session (Journal σ)} {restored : List Digest}

/-- Before the first operation the known roots are the restored ones. -/
theorem current_fresh (start : Session (Journal σ)) (restored : List Digest)
    (fresh : start.history = []) (idle : start.assembler.phase = .idle)
    (outputs : start.world.view.outputs.history = Window.ofList OutputRoots.historySize restored)
    (unseeded : start.world.view.outputs.seed = none) :
    start.TellsRoots ∧ start.world.view.ShowsRoots (start.knownRoots restored) ∧
      Drafts start.assembler start.world.view start.production := by
  have empty : start.production = .empty := by
    rw [production, fresh]
    rfl
  have known : start.knownRoots restored = restored.rtake OutputRoots.historySize := by
    rw [knownRoots, empty]
    exact List.append_nil _
  rw [TellsRoots, known, empty]
  refine ⟨(fun entry member => by cases member), .restored restored outputs unseeded, ?_⟩
  exact ⟨fun _ => rfl, (fun block phase => by cases idle.symm.trans phase)⟩

/-- As long as the roots are current, a move keeps them so. -/
theorem current_of_moves (told : before.TellsRoots)
    (shows : before.world.view.ShowsRoots (before.knownRoots restored))
    (drafts : Drafts before.assembler before.world.view before.production)
    (moves : MovesTo platform.journaled before after) :
    after.TellsRoots ∧ after.world.view.ShowsRoots (after.knownRoots restored) ∧
      Drafts after.assembler after.world.view after.production := by
  obtain ⟨events, moved, history⟩ := moves
  have produced := production_of_history history
  have drafted := drafts.moved moved
  rw [← produced] at drafted
  cases may_close_of_moved moved with
  | kept chain sameHistory seed saved untold =>
      have closed : after.production.closed = before.production.closed := by
        rw [produced, untold]
      refine ⟨?_, ?_, drafted⟩
      · rw [TellsRoots, closed]
        exact told
      · rw [knownRoots, closed]
        exact shows.same sameHistory seed
  | closed round opened block phase added shown saved answered =>
      have closed : after.production.closed = before.production.closed ++
          [(block.closed before.world.view round, before.production.taken)] := by
        rw [produced, answered]
        rfl
      refine ⟨?_, ?_, drafted⟩
      · rw [TellsRoots, closed]
        intro entry member
        rcases List.mem_append.mp member with earlier | newest
        · exact told entry earlier
        · rw [List.mem_singleton.mp newest]
          exact drafts.output opened phase
      · rw [knownRoots, closed, shown, List.map_append, ← List.append_assoc]
        exact shows.close block

theorem ahead_of_turned_away {block : OpenBlock}
    (shows : before.world.view.ShowsRoots (before.knownRoots restored))
    (drafts : Drafts before.assembler before.world.view before.production)
    (turned : TurnedAway before after block) : after.Tracks restored := by
  obtain ⟨opened, phase⟩ := turned.assembling
  refine .ahead turned.refused ?_
  rw [knownRoots, turned.untold, turned.view, ← drafts.output opened phase]
  exact shows.close block

/-- A step is one of the ways to move, or has the ledger turn a block away. -/
theorem step_moves_or_turns (platform : Platform σ) (inLine : session.IsInLine)
    (operation : Operation) :
    MovesTo platform.journaled session (session.step platform.journaled operation) ∨
      ∃ block, TurnedAway session (session.step platform.journaled operation) block := by
  cases operation with
  | startRound round => exact .inl (start_round_moves session round)
  | writeItem item => exact .inl (write_item_moves session item)
  | endRound round =>
      rcases running : session.stopped with _ | overflow
      · rcases Assembler.end_round_cases platform.journaled (inLine running) round with
          ended | notTaken
        · exact .inl (moves_of_round_ended running ended)
        · right
          simp only [step, assemble, running]
          generalize (Assembler.endRound _ _).run platform.journaled _ = result at notTaken ⊢
          cases notTaken with
          | refused block counted error after phase added left =>
              have goesOn := not_refused running (Assembler.refusal_of_assembling phase)
              exact ⟨counted, turned_away_of_refused goesOn phase left⟩
          | overflow block counted overflow after phase added left =>
              have goesOn := not_refused running (Assembler.refusal_of_assembling phase)
              exact ⟨counted, turned_away_of_overflow goesOn phase left⟩
      · simp only [step, assemble, running]
        exact .inl (moves_to_self session)
  | sign signature => exact .inl (sign_moves session signature)

/-- A stream that the ledger ended stays as it is. -/
theorem refused_stays (platform : Platform σ) (refused : session.IsRefused)
    (operation : Operation) :
    let next := session.step platform.journaled operation
    next.IsRefused ∧ next.world.view = session.world.view ∧
      next.production = session.production := by
  rcases demand_or_signature operation with ⟨demand, rfl⟩ | ⟨signature, rfl⟩
  · rcases running : session.stopped with _ | overflow
    · rcases refused with ⟨expected, actual, halted⟩ | stopped
      · have isOver : session.assembler.refusal? =
            some (.halted (StreamError.nonContiguous expected actual).message) := by
          simp only [Assembler.refusal?, halted]
        rw [refused_of_over running isOver demand]
        refine ⟨.inl ⟨expected, actual, halted⟩, rfl, ?_⟩
        rw [production, Production.of_history_append]
        cases demand <;> rfl
      · cases running.symm.trans stopped
    · have same : session.step platform.journaled demand.operation = session := by
        cases demand <;> simp only [Demand.operation, step, assemble, running]
      rw [same]
      exact ⟨refused, rfl, rfl⟩
  · obtain ⟨answer, after, applied, stepped⟩ :=
      session.signed_of_step platform.journaled signature
    have view : after.view = session.world.view := by cases applied <;> rfl
    rw [stepped]
    refine ⟨refused, view, ?_⟩
    rw [production, Production.of_history_append]
    rfl

/-! ### A whole run -/

theorem Tracks.step (inLine : session.IsInLine) (told : session.TellsRoots)
    (tracks : session.Tracks restored) (operation : Operation) :
    (session.step platform.journaled operation).TellsRoots ∧
      (session.step platform.journaled operation).Tracks restored := by
  cases tracks with
  | current shows drafts =>
      rcases step_moves_or_turns platform inLine operation with moves | ⟨block, turned⟩
      · obtain ⟨told, shows, drafts⟩ := current_of_moves told shows drafts moves
        exact ⟨told, .current shows drafts⟩
      · refine ⟨?_, ahead_of_turned_away shows drafts turned⟩
        rw [TellsRoots, turned.untold]
        exact told
  | ahead refused shows =>
      obtain ⟨refused, view, produced⟩ := refused_stays platform refused operation
      refine ⟨?_, .ahead refused ?_⟩
      · rw [TellsRoots, produced]
        exact told
      · rw [knownRoots, produced, view]
        exact shows

theorem AmongOthers.tracks {start : Session (Journal σ)} {first : Checkpoint}
    (begun : start.IsInLine ∧ start.Stands first) (told : start.TellsRoots)
    (tracks : start.Tracks restored) (reached : AmongOthers platform start session) :
    session.TellsRoots ∧ session.Tracks restored := by
  induction reached with
  | here => exact ⟨told, tracks⟩
  | stepped reached operation inductive_hypothesis =>
      have inLine := (reached.stands begun).1
      exact inductive_hypothesis.2.step inLine inductive_hypothesis.1 operation
  | disturbed reached world sameView sameCalls inductive_hypothesis =>
      refine ⟨inductive_hypothesis.1, ?_⟩
      cases inductive_hypothesis.2 with
      | current shows drafts =>
          exact .current (by rw [sameView]; exact shows) (by rw [sameView]; exact drafts)
      | ahead refused shows => exact .ahead refused (by rw [sameView]; exact shows)

/-- The seed is the root four places before the last one, and the checkpoint, as well as the one
that was saved last, holds the last four. -/
structure Lags (session : Session (Journal σ)) (roots : List Digest) : Prop where
  seed : session.world.view.seed = laggingRoot roots
  checkpoint : session.checkpoint.outputRoots = roots.rtake OutputRoots.historySize
  saved : ∀ last, session.saved.getLast? = some last →
    last.outputRoots = roots.rtake OutputRoots.historySize

theorem lags_of_shows {roots : List Digest} {first : Checkpoint}
    (shows : session.world.view.ShowsRoots roots) (stands : session.Stands first) :
    session.Lags roots := by
  have trailing : session.checkpoint.outputRoots = roots.rtake OutputRoots.historySize :=
    shows.trailing
  refine ⟨shows.seed, trailing, fun last newest => ?_⟩
  cases stands with
  | current reported same =>
      rw [newest] at same
      rw [← trailing, same, Option.getD_some]
  | behind earlier newer saved reported refused late =>
      rw [saved, List.getLast?_concat, Option.some.injEq] at newest
      rw [← trailing, late, newest]

/-- The seed stays, unless the answer tells a block closed. -/
def KeepsSeed (before after : Session (Journal σ)) : Prop :=
  after.world.view.seed = before.world.view.seed ∨
    ∃ round block, after.history = before.history ++ [.roundEnded round (.ok (some block))]

/-- Where only this stream uses the ledger, the roots stay current. -/
theorem current_run (platform : Platform σ)
    (coherent : session.assembler.Coherent session.world)
    (told : session.TellsRoots)
    (shows : session.world.view.ShowsRoots (session.knownRoots restored))
    (drafts : Drafts session.assembler session.world.view session.production)
    (operations : List Operation) :
    let later := session.run platform.journaled operations
    later.assembler.Coherent later.world ∧ later.world.view.ShowsRoots (later.knownRoots restored) := by
  induction operations generalizing session with
  | nil => exact ⟨coherent, shows⟩
  | cons operation rest inductive_hypothesis =>
      obtain ⟨told, shows, drafts⟩ := current_of_moves told shows drafts
        (step_moves platform.journaled coherent operation)
      exact inductive_hypothesis (coherent_step platform.journaled coherent operation) told shows
        drafts

theorem keeps_seed_of_moves (moves : MovesTo platform.journaled before after) :
    KeepsSeed before after := by
  obtain ⟨events, moved, history⟩ := moves
  cases may_close_of_moved moved with
  | kept chain sameHistory seed saved untold => exact .inl seed
  | closed round opened block phase added shown saved answered =>
      exact .inr ⟨round, _, by rw [history, answered]⟩

end

/-- Whatever was restored, whatever others do with the ledger and whatever fails, the seed is the
root four places back among the newest restored roots and those of the closed blocks. It moves only
where an answer tells a block closed, and in one case more: a block that was saved, shown and then
refused by the ledger has moved it already. This never happens where only this stream uses the
ledger. -/
theorem seed_lags_behind_closures (platform : Platform σ) {settings : StreamSettings}
    {startup : Startup} {assembler : Assembler} {view : View}
    (started : Assembler.start settings startup = .ok (assembler, view))
    (leftover : RunningDigest) (unproven : UnprovenRun WriterId) (counters : Counters)
    (requests : List Digest) (state : σ) :
    let restored := startup.checkpoint.outputRoots
    let start : Session (Journal σ) := ⟨assembler, ⟨view.withRunning leftover, unproven, counters,
      requests, ⟨[], state⟩⟩, [], none⟩
    (∀ session, AmongOthers platform start session →
      (∀ entry ∈ session.production.closed, entry.1.outputRoot = resultRoot entry.2) ∧
      (session.Lags (session.knownRoots restored) ∨ session.IsRefused ∧
        session.Lags (session.knownRoots restored ++ [resultRoot session.production.taken])) ∧
      ∀ operation, KeepsSeed session (session.step platform.journaled operation) ∨
        ∃ block, TurnedAway session (session.step platform.journaled operation) block) ∧
    (unproven = .empty → ∀ operations,
      let session := start.run platform.journaled operations
      session.Lags (session.knownRoots restored) ∧
        ∀ operation, KeepsSeed session (session.step platform.journaled operation)) := by
  intro restored start
  have idle := Assembler.start_idle started
  have begun : start.IsInLine ∧ start.Stands (assembler.checkpoint view) :=
    stands_start started start.world rfl rfl
  have history : view.outputs.history = Window.ofList OutputRoots.historySize restored := by
    rw [(Assembler.start_ok started).2.2.2]
    rfl
  have unseeded : view.outputs.seed = none := by
    rw [(Assembler.start_ok started).2.2.2]
    rfl
  obtain ⟨told, shows, drafts⟩ := current_fresh start restored rfl idle history unseeded
  constructor
  · intro session reached
    obtain ⟨inLine, stands⟩ := reached.stands begun
    obtain ⟨told, tracks⟩ := reached.tracks begun told (.current shows drafts)
    simp only [TellsRoots, root_of_results] at told
    refine ⟨told, ?_, fun operation => ?_⟩
    · cases tracks with
      | current shows drafts => exact .inl (lags_of_shows shows stands)
      | ahead refused shows =>
          rw [root_of_results] at shows
          exact .inr ⟨refused, lags_of_shows shows stands⟩
    · rcases step_moves_or_turns platform inLine operation with moves | turned
      · exact .inl (keeps_seed_of_moves moves)
      · exact .inr turned
  · intro alone operations session
    subst alone
    have coherent : start.assembler.Coherent start.world :=
      ⟨(fun newest last => by cases last), (fun block phase => by cases idle.symm.trans phase)⟩
    obtain ⟨coherent, shows⟩ := current_run platform coherent told shows drafts operations
    have reached : AmongOthers platform start session := AmongOthers.here.run operations
    exact ⟨lags_of_shows shows (reached.stands begun).2,
      fun operation => keeps_seed_of_moves (step_moves platform.journaled coherent operation)⟩

/-- A stream that goes on after its block 3, with four roots and no seed yet. -/
def resumed : Startup :=
  .resume ⟨some 3, some ⟨1, 0⟩, [Digest.of [0], Digest.of [1], Digest.of [2], Digest.of [3]], []⟩
    .zero

def resumedStart (unproven : UnprovenRun WriterId) : Session (Journal Depot) :=
  let view : View := ⟨Chain.start resumed.checkpoint resumed.anchor,
    OutputRoots.ofHistory resumed.checkpoint.outputRoots, none⟩
  ⟨⟨.default, .idle, some ⟨1, 0⟩⟩, ⟨view.withRunning .empty, unproven, .zero, [],
    ⟨[], Depot.empty .log (.memory none)⟩⟩, [], none⟩

theorem seed_lags_behind_resumed_roots :
    let round : Round := ⟨1, ⟨2, 0⟩, false, []⟩
    let session := (resumedStart .empty).run Depot.platform.journaled
      [.startRound round, .endRound round]
    Assembler.start .default resumed = .ok (⟨.default, .idle, some ⟨1, 0⟩⟩,
      ⟨Chain.start resumed.checkpoint resumed.anchor,
        OutputRoots.ofHistory resumed.checkpoint.outputRoots, none⟩) ∧
    session.world.view.seed = some (Digest.of [0]) ∧
    session.Lags (session.knownRoots resumed.checkpoint.outputRoots) := by
  intro round session
  have started : Assembler.start .default resumed = .ok (⟨.default, .idle, some ⟨1, 0⟩⟩,
      ⟨Chain.start resumed.checkpoint resumed.anchor,
        OutputRoots.ofHistory resumed.checkpoint.outputRoots, none⟩) := rfl
  obtain ⟨_, alone⟩ := seed_lags_behind_closures Depot.platform started .empty .empty .zero []
    (Depot.empty .log (.memory none))
  exact ⟨started, by decide +kernel, (alone rfl _).1⟩

/-- The ledger holds the block of another stream. It refuses block 4 and no block is told closed, so
the four known roots have no seed, but readers see one. -/
theorem refused_block_moves_seed :
    let round : Round := ⟨1, ⟨2, 0⟩, false, []⟩
    let opened := (resumedStart ⟨[⟨9, Digest.of [9], .zero, [], 9⟩]⟩).step Depot.platform.journaled
      (.startRound round)
    let session := opened.step Depot.platform.journaled (.endRound round)
    opened.world.view.seed = none ∧ session.assembler.isHalted = true ∧
      session.production.closed.length = 0 ∧
      laggingRoot (session.knownRoots resumed.checkpoint.outputRoots) = none ∧
      session.world.view.seed = some (Digest.of [0]) := by
  intro round opened session
  exact ⟨by decide +kernel, by decide +kernel, by decide +kernel, by decide +kernel,
    by decide +kernel⟩

end Session
end ProvenBlocks
