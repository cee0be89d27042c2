import ProvenBlocks.Proofs.Feeds
import ProvenBlocks.Proofs.Reference
import ProvenBlocks.Proofs.Summaries

/-!
How many rounds and blocks a run counts. As long as no call fails and no number is beyond the last
one, a node takes in the rounds of its feed up to the first freeze round. Every full group of rounds
makes a block, and so does the group that the freeze round ends.
-/

namespace ProvenBlocks

/-! ### Up to the freeze round -/

namespace FeedSettings

/-- The number of the freeze round, if the feed gets that far. -/
def freeze? (settings : FeedSettings) : Option Nat :=
  (settings.freezeRound.map UInt64.toNat).filter fun number =>
    1 ≤ number ∧ number ≤ settings.rounds.toNat

/-- The freeze round is the last one that a node takes in. -/
def fed (settings : FeedSettings) : Nat := settings.freeze?.getD settings.rounds.toNat

end FeedSettings

/-- The rounds up to the first freeze round, which is the last of them. -/
def untilFreeze : List Round → List Round
  | [] => []
  | round :: later => if round.freeze then [round] else round :: untilFreeze later

theorem until_freeze_ended {round : Round} (freeze : round.freeze = true) (later : List Round) :
    untilFreeze (round :: later) = [round] := if_pos freeze

theorem until_freeze_goes_on {round : Round} (thawed : round.freeze = false)
    (later : List Round) : untilFreeze (round :: later) = round :: untilFreeze later :=
  if_neg (Bool.eq_false_iff.mp thawed)

theorem until_freeze_nonempty (round : Round) (later : List Round) :
    0 < (untilFreeze (round :: later)).length := by
  unfold untilFreeze
  split <;> exact Nat.succ_pos _

theorem until_freeze_thawed (rounds : List Round) :
    ∀ round ∈ (untilFreeze rounds).dropLast, round.freeze = false := by
  induction rounds with
  | nil => nofun
  | cons round later inductive_hypothesis =>
      unfold untilFreeze
      split
      · nofun
      · rename_i thawed
        intro other member
        rcases rest : untilFreeze later with _ | ⟨second, others⟩
        · rw [rest] at member
          cases member
        · rw [rest] at member inductive_hypothesis
          rcases List.mem_cons.mp member with rfl | among
          · exact Bool.eq_false_iff.mpr thawed
          · exact inductive_hypothesis other among

theorem until_freeze_frozen (rounds : List Round) :
    (untilFreeze rounds).any Round.freeze = rounds.any Round.freeze := by
  induction rounds with
  | nil => rfl
  | cons round later inductive_hypothesis =>
      unfold untilFreeze
      split
      · rename_i frozen
        simp only [List.any_cons, frozen, Bool.true_or]
      · rw [List.any_cons, List.any_cons, inductive_hypothesis]

theorem until_freeze_all {rounds : List Round} (thawed : ∀ round ∈ rounds, round.freeze = false) :
    untilFreeze rounds = rounds := by
  induction rounds with
  | nil => rfl
  | cons round later inductive_hypothesis =>
      rw [until_freeze_goes_on (thawed round (List.mem_cons_self ..)),
        inductive_hypothesis fun other member => thawed other (List.mem_cons_of_mem _ member)]

theorem until_freeze_take {rounds : List Round} {index : Nat} (inside : index < rounds.length)
    (freeze : rounds[index].freeze = true)
    (thawed : ∀ (before : Nat) (earlier : before < index), rounds[before].freeze = false) :
    untilFreeze rounds = rounds.take (index + 1) := by
  induction rounds generalizing index with
  | nil => exact absurd inside (Nat.not_lt_zero _)
  | cons round later inductive_hypothesis =>
      rcases index with _ | index
      · exact until_freeze_ended freeze later
      · have rest := inductive_hypothesis (Nat.lt_of_succ_lt_succ inside) freeze
          fun before earlier => thawed (before + 1) (Nat.succ_lt_succ earlier)
        exact (until_freeze_goes_on (thawed 0 (Nat.succ_pos _)) later).trans
          (congrArg (List.cons round) rest)

namespace FeedSettings

variable {settings : FeedSettings} {clock : Instant} {rounds : List Round}

theorem freeze_eq_some {number : Nat} :
    settings.freeze? = some number ↔ settings.freezeRound.map UInt64.toNat = some number ∧
      1 ≤ number ∧ number ≤ settings.rounds.toNat := by
  simp only [freeze?, Option.filter_eq_some_iff, decide_eq_true_eq]

theorem fed_le_rounds : settings.fed ≤ settings.rounds.toNat := by
  unfold fed
  rcases stop : settings.freeze? with _ | number
  · exact Nat.le_refl _
  · exact (freeze_eq_some.mp stop).2.2

theorem Makes.freeze_iff {round : Round} {index : Nat} (makes : settings.Makes clock index round)
    (inside : index < settings.rounds.toNat) :
    round.freeze = true ↔ settings.freeze? = some (index + 1) := by
  rw [makes.freeze, freeze_eq_some, ← makes.number]
  constructor
  · intro same
    rw [same, Option.map_some]
    have number := makes.number
    exact ⟨rfl, by omega, by omega⟩
  · rintro ⟨same, _⟩
    obtain ⟨word, stop, equal⟩ := Option.map_eq_some_iff.mp same
    rw [stop, UInt64.toNat_inj.mp equal]

/-- Of all rounds that a feed makes, those up to the first freeze round. -/
theorem until_freeze_of_makes (length : rounds.length = settings.rounds.toNat)
    (makes : ∀ (index : Nat) (inside : index < rounds.length),
      settings.Makes clock index rounds[index]) :
    untilFreeze rounds = rounds.take settings.fed ∧
      rounds.any Round.freeze = settings.freeze?.isSome := by
  have freezes (index : Nat) (inside : index < rounds.length) :
      rounds[index].freeze = true ↔ settings.freeze? = some (index + 1) :=
    (makes index inside).freeze_iff (length ▸ inside)
  rcases stop : settings.freeze? with _ | number
  · have thawed : ∀ round ∈ rounds, round.freeze = false := by
      intro round member
      obtain ⟨index, inside, rfl⟩ := List.mem_iff_getElem.mp member
      rw [← Bool.not_eq_true, freezes, stop]
      nofun
    rw [until_freeze_all thawed, fed, stop, Option.getD_none, ← length, List.take_length]
    exact ⟨rfl, List.any_eq_false.mpr fun round member =>
      Bool.eq_false_iff.mp (thawed round member)⟩
  · obtain ⟨_, least, most⟩ := freeze_eq_some.mp stop
    obtain ⟨index, rfl⟩ := Nat.exists_eq_add_of_le' least
    have inside : index < rounds.length := by omega
    have freeze := (freezes index inside).mpr stop
    have thawed (before : Nat) (earlier : before < index) : rounds[before].freeze = false := by
      rw [← Bool.not_eq_true, freezes, stop, Option.some_inj]
      omega
    rw [until_freeze_take inside freeze thawed, fed, stop, Option.getD_some]
    exact ⟨rfl, List.any_eq_true.mpr ⟨_, List.getElem_mem inside, freeze⟩⟩

/-- A feed makes no items that only the stream itself may write. -/
theorem Makes.unmanaged {round : Round} {index : Nat} (makes : settings.Makes clock index round) :
    ∀ item ∈ round.items, item.isManaged = false := by
  obtain ⟨pairs, changes, _, _, items⟩ := makes.items
  intro item member
  rw [items, List.mem_append, List.mem_flatMap, List.mem_singleton] at member
  rcases member with ⟨pair, _, member⟩ | rfl
  · simp only [pairItems, List.mem_cons, List.not_mem_nil, or_false] at member
    rcases member with rfl | rfl <;> rfl
  · rfl

end FeedSettings

/-! ### Blocks -/

/-- How many blocks so many rounds make: one for each full group, and one for the rest if a freeze
round ends it. -/
def blockCount (size rounds : Nat) (isFrozen : Bool) : Nat :=
  rounds / size + if isFrozen ∧ ¬ size ∣ rounds then 1 else 0

section

variable {size rounds : Nat}

theorem block_count_add (positive : 0 < size) (rounds : Nat) (isFrozen : Bool) :
    blockCount size (rounds + size) isFrozen = blockCount size rounds isFrozen + 1 := by
  simp only [blockCount, Nat.add_div_right rounds positive, Nat.dvd_add_self_right]
  omega

theorem block_count_short (short : rounds < size) : blockCount size rounds false = 0 := by
  rw [blockCount, Nat.div_eq_of_lt short]
  rfl

theorem block_count_full (positive : 0 < size) (isFrozen : Bool) :
    blockCount size size isFrozen = 1 := by
  simp only [blockCount, Nat.div_self positive, Nat.dvd_refl, not_true_eq_false, and_false,
    if_false]

theorem block_count_ended (short : rounds + 1 < size) : blockCount size (rounds + 1) true = 1 := by
  have partly : ¬ size ∣ rounds + 1 := Nat.not_dvd_of_pos_of_lt (Nat.succ_pos _) short
  rw [blockCount, Nat.div_eq_of_lt short, if_pos ⟨rfl, partly⟩]

end

/-- The groups of rounds of which only the last one may be a freeze round. -/
theorem cut_count {size : Nat} {begun : List Round} (short : begun.length < size)
    {rounds : List Round} (thawed : ∀ round ∈ rounds.dropLast, round.freeze = false) :
    (cut size begun rounds).1.length =
      blockCount size (begun.length + rounds.length) (rounds.any Round.freeze) := by
  induction rounds generalizing begun with
  | nil => exact (block_count_short short).symm
  | cons round later inductive_hypothesis =>
      have length : (begun ++ [round]).length = begun.length + 1 := by
        rw [List.length_append, List.length_singleton]
      have next : begun.length + (round :: later).length = begun.length + 1 + later.length := by
        rw [List.length_cons]
        omega
      unfold cut
      rw [length, next, List.any_cons]
      rcases freeze : round.freeze with _ | _
      · rw [Bool.false_or]
        split
        · rename_i due
          have full := due.resolve_right Bool.false_ne_true
          rw [List.length_cons, @inductive_hypothesis [] (Nat.zero_lt_of_lt short)
            (thawed_later thawed), full, Nat.add_comm size, block_count_add (Nat.zero_lt_of_lt short)]
          exact congrArg (fun count => blockCount size count _ + 1) (Nat.zero_add _)
        · rename_i early
          rw [inductive_hypothesis (by omega) (thawed_later thawed), length]
      · -- nothing follows a freeze round
        rcases later with _ | ⟨second, others⟩
        · rw [if_pos (.inr rfl), Bool.true_or]
          by_cases full : begun.length + 1 = size
          · rw [List.length_nil, Nat.add_zero, full]
            exact (block_count_full (Nat.zero_lt_of_lt short) true).symm
          · exact (block_count_ended (by omega)).symm
        · have melted := thawed round (List.mem_cons_self ..)
          rw [freeze] at melted
          contradiction

/-! ### One round -/

/-- The calls that a round leads to. -/
def Take.calls (take : Take) : List Call :=
  match take.node.station.assembler with
  | none => []
  | some assembler =>
      ((assembler.processRound take.round).run Depot.platform.journaled
        take.node.station.world.withJournal).2.platform.calls

section

variable {σ τ : Type} {footing : Footing} {settings : StreamSettings} {assembler : Assembler}
  {begun : List Round}

/-- Assembler and world are in line if the view and the ledger are. -/
theorem Assembler.Coherent.same {world : World σ} {other : World τ}
    (coherent : assembler.Coherent world) (view : other.view = world.view)
    (unproven : other.unproven = world.unproven) : assembler.Coherent other where
  linked := by
    intro newest last
    rw [unproven] at last
    rw [view]
    exact coherent.linked newest last
  follows := by
    intro block phase
    have follows := coherent.follows block phase
    exact ⟨by rw [view]; exact follows.prior, by rw [view]; exact follows.next⟩

/-- A stream stands on what readers see, whatever else has changed. -/
theorem Footing.Stands.same {world after : World (Journal σ)}
    (stands : footing.Stands settings assembler world begun) (view : after.view = world.view)
    (coherent : assembler.Coherent after) :
    footing.Stands settings assembler after begun := by
  have carries : footing.Carries settings assembler after :=
    ⟨stands.carries.settings, coherent, view ▸ stands.carries.shown⟩
  cases stands with
  | idle _ phase => exact .idle carries phase
  | assembling first later block gathers =>
      exact .assembling first later block ⟨carries, gathers.phase, gathers.time, gathers.rounds,
        gathers.items, gathers.input, view ▸ gathers.output⟩

end

namespace Station

/-- The session that an assembler of the station would go on with. -/
def sessionOf (station : Station) (assembler : Assembler) : Session (Journal Depot) :=
  ⟨assembler, station.world.withJournal, [], none⟩

/-- The station stands on a footing between two rounds, and has no ledger but its own. -/
def Stands (station : Station) (footing : Footing) (settings : StreamSettings)
    (begun : List Round) : Prop :=
  ∃ assembler, station.Plays (station.sessionOf assembler) ∧
    footing.Stands settings assembler station.world.withJournal begun

variable {station : Station} {session : Session (Journal Depot)} {footing : Footing}
  {settings : StreamSettings} {begun : List Round} {round : Round}

/-- A station that plays a session stands where the session does. -/
theorem Plays.stands (plays : station.Plays session)
    (stands : footing.Stands settings session.assembler session.world begun) :
    station.Stands footing settings begun := by
  have view : station.world.view = session.world.view := congrArg World.view plays.world
  have unproven : station.world.unproven = session.world.unproven :=
    congrArg World.unproven plays.world
  have coherent : session.assembler.Coherent station.world.withJournal :=
    stands.carries.coherent.same view unproven
  exact ⟨session.assembler, ⟨plays.assembler, rfl, plays.former, rfl⟩, stands.same view coherent⟩

/-- What is settled between two rounds does not matter to the next one. -/
theorem Stands.settle (stands : station.Stands footing settings begun) :
    station.settle.Stands footing settings begun := by
  obtain ⟨assembler, plays, stands⟩ := stands
  obtain ⟨signatures, settled⟩ := plays.settle
  obtain ⟨same, view, _⟩ :=
    Session.run_signatures Depot.platform.journaled (station.sessionOf assembler) signatures
  have begins : (station.sessionOf assembler).assembler.Coherent
      (station.sessionOf assembler).world := stands.carries.coherent
  have coherent := Session.coherent_run Depot.platform.journaled begins (signatures.map .sign)
  rw [same] at coherent
  apply settled.stands
  rw [same]
  exact stands.same view coherent

theorem Plays.settle_frozen (plays : station.Plays session) :
    (station.settle.assembler.map Assembler.isFrozen).getD false =
      session.assembler.isFrozen := by
  obtain ⟨signatures, settled⟩ := plays.settle
  obtain ⟨same, _, _⟩ :=
    Session.run_signatures Depot.platform.journaled session signatures
  rw [settled.assembler, same, Option.map_some, Option.getD_some]

/-- The station takes in a round as its session does. -/
theorem Plays.take_in (plays : station.Plays session) {closed : Option ClosedBlock}
    {next : Assembler} {after : World (Journal Depot)}
    (ran : (session.assembler.processRound round).run Depot.platform.journaled session.world =
      (.ok (.ok closed, next), after)) :
    ∃ fed, station.assemble (·.processRound round) = (.ok closed, fed) ∧
      fed.Plays ⟨next, after, [], none⟩ := by
  obtain ⟨answer, world⟩ := plays.run (session.assembler.processRound round)
  rw [ran] at answer world
  rcases worked : (session.assembler.processRound round).run Depot.platform station.world with
    ⟨found, reached⟩
  rw [worked] at answer world
  subst answer
  obtain ⟨_, unasked, former⟩ := collected { station with world := reached }
  refine ⟨{ { station with world := reached }.collectRequests with assembler := some next }, ?_,
    rfl, unasked.trans world, former.trans plays.former, rfl⟩
  simp only [assemble, plays.assembler, worked]
  rfl

end Station

/-! ### All rounds -/

namespace Node

variable {node : Node} {footing : Footing} {settings : StreamSettings} {begun : List Round}
  {round : Round}

/-- The node after a round that its station has taken in. -/
theorem took_of_assembled {closed : Option ClosedBlock} {station : Station}
    (assembled : node.station.assemble (·.processRound round) = (.ok closed, station)) :
    node.processRound round =
      (.ok closed, { node with station := station, rounds := node.rounds + 1 }) := by
  simp only [processRound, assembled]

/-- A round that no call fails for joins the group or completes it. -/
theorem take_stands (stands : node.station.Stands footing settings begun)
    (short : begun.length < settings.roundsPerBlock.toNat) (more : footing.number < 2 ^ 64)
    (unmanaged : ∀ item ∈ round.items, item.isManaged = false)
    (untroubled : ∀ call ∈ (Take.mk node round).calls, call.isFailure = false) :
    (¬ ((begun ++ [round]).length = settings.roundsPerBlock.toNat ∨ round.freeze) ∧
      ∃ fed, node.processRound round = (.ok none, fed) ∧ fed.settled.isFrozen = false ∧
        fed.settled.station.Stands footing settings (begun ++ [round])) ∨
    (((begun ++ [round]).length = settings.roundsPerBlock.toNat ∨ round.freeze) ∧
      ∃ fed, node.processRound round = (.ok (some (footing.block (begun ++ [round]))), fed) ∧
        fed.settled.isFrozen = round.freeze ∧
        (round.freeze = false →
          fed.settled.station.Stands (footing.after (begun ++ [round])) settings [])) := by
  obtain ⟨assembler, plays, stands⟩ := stands
  have faultless : ((assembler.processRound round).run Depot.platform.journaled
      node.station.world.withJournal).2.platform.Faultless := by
    have present : node.station.assembler = some assembler := plays.assembler
    simp only [Take.calls, present] at untroubled
    exact untroubled
  rcases stands.processRound short more unmanaged faultless with
    ⟨early, next, after, ran, _, joined⟩ | ⟨due, next, after, ran, _, freezes, begins⟩
  · obtain ⟨station, took, fed⟩ := plays.take_in ran
    exact .inl ⟨early, _, took_of_assembled took, fed.settle_frozen.trans joined.thawed,
      (fed.stands joined).settle⟩
  · obtain ⟨station, took, fed⟩ := plays.take_in ran
    exact .inr ⟨due, _, took_of_assembled took, fed.settle_frozen.trans freezes,
      fun thawed => (fed.stands (begins thawed)).settle⟩

variable {generator : Generator}

theorem head_mem_takes {feed following : Feed generator}
    (next : feed.next? = .ok (some (round, following))) (fuel : Nat) :
    Take.mk node round ∈ node.takesWithin (fuel + 1) feed := by
  simp only [takesWithin, next]
  exact List.mem_cons_self ..

theorem later_mem_takes {feed following : Feed generator} {fed : Node}
    {closed : Option ClosedBlock} {fuel : Nat} (next : feed.next? = .ok (some (round, following)))
    (took : node.processRound round = (.ok closed, fed)) (thawed : fed.settled.isFrozen = false)
    {take : Take} (member : take ∈ fed.settled.takesWithin fuel following) :
    take ∈ node.takesWithin (fuel + 1) feed := by
  rw [takes_within_round next took, if_neg (Bool.eq_false_iff.mp thawed)]
  exact List.mem_cons_of_mem _ member

/-- The run takes in these rounds, closes so many blocks and comes to its end. -/
structure RunsTo (node later : Node) (fuel : Nat) (feed : Feed generator)
    (rounds : List Round) (blocks : Nat) : Prop where
  ran : node.runWithin fuel feed = (.ok later.summary, later)
  takes : (node.takesWithin fuel feed).map Take.round = rounds
  closed : ((node.takesWithin fuel feed).filterMap Take.closed?).length = blocks

section

variable {later fed : Node} {fuel blocks : Nat} {feed following : Feed generator}
  {rounds : List Round} {closed : Option ClosedBlock}

theorem RunsTo.ended (next : feed.next? = .ok none) (fuel : Nat) :
    node.RunsTo node fuel feed [] 0 := by
  rcases fuel with _ | fuel
  · exact ⟨rfl, rfl, rfl⟩
  · constructor
    · simp only [runWithin, next]
    · simp only [takesWithin, next, List.map_nil]
    · simp only [takesWithin, next, List.filterMap_nil, List.length_nil]

/-- Nothing is taken in after the round that the node freezes on. -/
theorem RunsTo.last (next : feed.next? = .ok (some (round, following)))
    (took : node.processRound round = (.ok closed, fed)) (frozen : fed.settled.isFrozen = true) :
    node.RunsTo fed.settled (fuel + 1) feed [round] closed.toList.length where
  ran := by rw [run_within_round next took, if_pos frozen]
  takes := by rw [takes_within_round next took, if_pos frozen, List.map_singleton]
  closed := by
    rw [takes_within_round next took, if_pos frozen, List.filterMap_cons, closed_of_took took]
    cases closed <;> rfl

theorem RunsTo.cons (next : feed.next? = .ok (some (round, following)))
    (took : node.processRound round = (.ok closed, fed)) (thawed : fed.settled.isFrozen = false)
    {total : Nat} (sum : closed.toList.length + blocks = total)
    (rest : fed.settled.RunsTo later fuel following rounds blocks) :
    node.RunsTo later (fuel + 1) feed (round :: rounds) total where
  ran := by rw [run_within_round next took, if_neg (Bool.eq_false_iff.mp thawed), rest.ran]
  takes := by
    rw [takes_within_round next took, if_neg (Bool.eq_false_iff.mp thawed), List.map_cons,
      rest.takes]
  closed := by
    rw [takes_within_round next took, if_neg (Bool.eq_false_iff.mp thawed), List.filterMap_cons,
      closed_of_took took, ← sum, ← rest.closed]
    cases closed
    · exact (Nat.zero_add _).symm
    · exact Nat.add_comm _ _

/-- A run takes in the rounds of its feed up to the first freeze round, closes a block for each
group of them, and ends frozen if it came to such a round. -/
theorem runs_to_freeze (yields : feed.Yields rounds) (enough : rounds.length ≤ fuel)
    (stands : node.station.Stands footing settings begun)
    (short : begun.length < settings.roundsPerBlock.toNat)
    (numbers : footing.number * settings.roundsPerBlock.toNat +
      (begun.length + (untilFreeze rounds).length) ≤ 2 ^ 64 * settings.roundsPerBlock.toNat)
    (unmanaged : ∀ round ∈ rounds, ∀ item ∈ round.items, item.isManaged = false)
    (untroubled : ∀ take ∈ node.takesWithin fuel feed, ∀ call ∈ take.calls,
      call.isFailure = false) :
    ∃ later : Node, later.isFrozen = rounds.any Round.freeze ∧
      node.RunsTo later fuel feed (untilFreeze rounds)
        (cut settings.roundsPerBlock.toNat begun (untilFreeze rounds)).1.length := by
  induction yields generalizing node footing begun fuel with
  | ended next =>
      obtain ⟨assembler, plays, stands⟩ := stands
      have frozen : node.isFrozen = false := by
        rw [isFrozen, plays.assembler]
        exact stands.thawed
      exact ⟨node, frozen, .ended next fuel⟩
  | @round feed following round later next _ inductive_hypothesis =>
      obtain ⟨fuel, rfl⟩ := Nat.exists_eq_add_one_of_ne_zero
        (Nat.pos_iff_ne_zero.mp (Nat.lt_of_lt_of_le (Nat.succ_pos _) enough))
      have length : (begun ++ [round]).length = begun.length + 1 := by
        rw [List.length_append, List.length_singleton]
      have later_unmanaged : ∀ other ∈ later, ∀ item ∈ other.items, item.isManaged = false :=
        fun other member => unmanaged other (List.mem_cons_of_mem _ member)
      have positive : 0 < settings.roundsPerBlock.toNat := Nat.zero_lt_of_lt short
      have more : footing.number < 2 ^ 64 := by
        have some_ := until_freeze_nonempty round later
        exact Nat.lt_of_mul_lt_mul_right
          (Nat.lt_of_lt_of_le (Nat.lt_add_of_pos_right (by omega)) numbers)
      rcases take_stands stands short more (unmanaged round (List.mem_cons_self ..))
        (untroubled _ (head_mem_takes next fuel)) with
        ⟨early, fed, took, thawed, joined⟩ | ⟨due, fed, took, frozen, begins⟩
      · have joins : cut settings.roundsPerBlock.toNat begun (round :: untilFreeze later) =
            cut settings.roundsPerBlock.toNat (begun ++ [round]) (untilFreeze later) := if_neg early
        rw [not_or, Bool.not_eq_true] at early
        rw [until_freeze_goes_on early.2, List.length_cons] at numbers
        obtain ⟨last, ends, rest⟩ := inductive_hypothesis (Nat.le_of_succ_le_succ enough) joined
          (by omega) (by omega) later_unmanaged
          fun take member => untroubled take (later_mem_takes next took thawed member)
        rw [until_freeze_goes_on early.2, joins, List.any_cons, early.2, Bool.false_or]
        exact ⟨last, ends, .cons next took thawed (Nat.zero_add _) rest⟩
      · rcases freeze : round.freeze with _ | _
        · rw [freeze] at frozen
          rw [until_freeze_goes_on freeze, List.length_cons] at numbers
          have full : begun.length + 1 = settings.roundsPerBlock.toNat := by
            rw [← length]
            exact due.resolve_right (Bool.eq_false_iff.mp freeze)
          have completes : cut settings.roundsPerBlock.toNat begun (round :: untilFreeze later) =
              ((begun ++ [round]) :: (cut settings.roundsPerBlock.toNat [] (untilFreeze later)).1,
                (cut settings.roundsPerBlock.toNat [] (untilFreeze later)).2) := if_pos due
          have following_numbers : (footing.number + 1) * settings.roundsPerBlock.toNat +
              (0 + (untilFreeze later).length) ≤ 2 ^ 64 * settings.roundsPerBlock.toNat := by
            rw [Nat.add_mul]
            omega
          obtain ⟨last, ends, rest⟩ := inductive_hypothesis (Nat.le_of_succ_le_succ enough)
            (begins freeze) positive following_numbers later_unmanaged
            fun take member => untroubled take (later_mem_takes next took frozen member)
          rw [until_freeze_goes_on freeze, completes, List.any_cons, freeze, Bool.false_or]
          exact ⟨last, ends, .cons next took frozen (Nat.add_comm _ _) rest⟩
        · rw [freeze] at frozen
          have completes : cut settings.roundsPerBlock.toNat begun [round] =
              ([begun ++ [round]], []) := if_pos due
          rw [until_freeze_ended freeze, completes, List.any_cons, freeze, Bool.true_or]
          exact ⟨fed.settled, frozen, .last next took frozen⟩

end

/-! ### The whole run -/

variable {feed : FeedSettings} {tree ready : FileTree} {clock : Instant}

/-- A node that has just started stands on what its checkpoint tells. -/
theorem start_stands (started : Node.start settings feed tree = (.ok node, ready)) :
    0 < settings.roundsPerBlock.toNat ∧
      ∃ footing : Footing, footing.number = node.station.world.view.chain.height ∧
        node.station.Stands footing settings [] := by
  obtain ⟨stored, assembler, view, _, begun, _, plays⟩ := Node.start_plays started
  obtain ⟨allowed, valid, fresh, shown⟩ := Checkpoint.start_stored_ok begun
  have idle := Assembler.start_idle begun
  have same : node.station.world.view = view := congrArg World.view plays.world
  obtain ⟨_, number, next⟩ := Checkpoint.view_of_valid valid
  rw [← shown] at next
  have prior := Checkpoint.view_chain_prior (stored.getD .empty)
  rw [← shown] at prior
  have carries : Footing.Carries _ settings assembler
      (Session.fresh assembler view (⟨[], node.station.depot⟩ : Journal Depot)).world :=
    ⟨by rw [fresh], Assembler.coherent_fresh idle view _,
      Footing.shown_at_start begun prior next⟩
  refine ⟨UInt32.lt_iff_toNat_lt.mp (StreamSettings.rounds_positive allowed), _, ?_,
    plays.stands (.idle carries idle)⟩
  rw [same]
  exact Chain.next_number_height next

/-- A feed that stays within its words yields its rounds, numbered from one on and a quarter of a
second apart. A node whose calls do not fail takes in those up to the freeze round; its summary
counts them and the blocks that they make. -/
theorem run_counts_rounds_and_blocks
    (started : Node.start settings feed tree = (.ok node, ready)) (fits : feed.Fits clock)
    (numbers : node.station.world.view.chain.height * settings.roundsPerBlock.toNat + feed.fed ≤
      2 ^ 64 * settings.roundsPerBlock.toNat)
    (untroubled : ∀ take ∈ node.takes clock generator, ∀ call ∈ take.calls,
      call.isFailure = false) :
    ∃ rounds, (Feed.start feed clock generator).rounds = .ok rounds ∧
      (Feed.start feed clock generator).Yields rounds ∧
      rounds.length = feed.rounds.toNat ∧
      (∀ (index : Nat) (inside : index < rounds.length), feed.Makes clock index rounds[index]) ∧
      rounds.Pairwise (fun earlier later => earlier.time.order later.time = .lt) ∧
      (node.takes clock generator).map Take.round = rounds.take feed.fed ∧
      ∃ summary later, node.run clock generator = (.ok summary, later) ∧
        summary.rounds = feed.fed ∧ summary.isFrozen = feed.freeze?.isSome ∧
        summary.closedBlocks.toNat =
          blockCount settings.roundsPerBlock.toNat feed.fed feed.freeze?.isSome := by
  obtain ⟨rounds, yields, length, makes⟩ := fits.yields generator
  obtain ⟨until_, frozen⟩ := FeedSettings.until_freeze_of_makes length makes
  obtain ⟨positive, footing, height, stands⟩ := start_stands started
  have taken : (untilFreeze rounds).length = feed.fed := by
    rw [until_, List.length_take, length, Nat.min_eq_left FeedSettings.fed_le_rounds]
  have unmanaged : ∀ round ∈ rounds, ∀ item ∈ round.items, item.isManaged = false := by
    intro round member
    obtain ⟨index, inside, rfl⟩ := List.mem_iff_getElem.mp member
    exact (makes index inside).unmanaged
  have same : node.feed = feed := (start_ok started).1
  subst same
  obtain ⟨later, ends, runs⟩ := runs_to_freeze yields (Nat.le_of_eq length) stands positive
    (by rw [height, taken, List.length_nil, Nat.zero_add]; exact numbers) unmanaged untroubled
  obtain ⟨stored, _, _, loaded, _⟩ := Node.start_plays started
  have ran : node.run clock generator = (.ok later.summary, later) := runs.ran
  obtain ⟨session, tells, plays, _, counted, blocks, _⟩ := run_tells loaded started ran
  have takes : (node.takes clock generator).length = node.feed.fed := by
    rw [← taken, ← runs.takes, List.length_map]
    rfl
  have closes : session.production.blocks.length =
      blockCount settings.roundsPerBlock.toNat node.feed.fed node.feed.freeze?.isSome := by
    have none_begun : ([] : List Round).length < settings.roundsPerBlock.toNat := positive
    have count := cut_count none_begun (until_freeze_thawed rounds)
    rw [until_freeze_frozen, frozen, taken, List.length_nil, Nat.zero_add] at count
    rw [blocks, ← count]
    exact runs.closed
  have bounded : session.production.blocks.length < 2 ^ 64 := by
    have fewer := List.length_filterMap_le Take.closed? (node.takes clock generator)
    have most : node.feed.fed ≤ node.feed.rounds.toNat := FeedSettings.fed_le_rounds
    have word := node.feed.rounds.toNat_lt
    rw [blocks]
    omega
  refine ⟨rounds, yields.rounds_within (Nat.le_of_eq length), yields, length, makes, ?_,
    runs.takes.trans until_, later.summary, later, ran, counted.trans takes, ends.trans frozen, ?_⟩
  · rw [List.pairwise_iff_getElem]
    intro first second inside other before
    exact (makes first inside).later (makes second other) before
  · rw [← closes]
    exact (congrArg UInt64.toNat (tells.closed_count plays)).trans
      (UInt64.toNat_ofNat_of_lt' bounded)

/-- Two rounds in a block, but the first of two rounds is the freeze round: one round and one block
are counted, with a transaction in each round. -/
theorem counts_of_frozen_run :
    let feed : FeedSettings := ⟨2, 1, some 1, some 15638⟩
    ∃ node ready, Node.start twoRoundBlocks feed .empty = (.ok node, ready) ∧
      feed.Fits ⟨0, 0⟩ ∧ node.station.world.view.chain.height * 2 + 1 ≤ 2 ^ 64 * 2 ∧
      (∀ take ∈ node.takes ⟨0, 0⟩ .threeTransactions, ∀ call ∈ take.calls,
        call.isFailure = false) ∧
      ∃ rounds, (Feed.start feed ⟨0, 0⟩ .threeTransactions).rounds = .ok rounds ∧
        rounds.length = 2 ∧
        (node.takes ⟨0, 0⟩ .threeTransactions).map Take.round = rounds.take 1 ∧
        ∃ summary later, node.run ⟨0, 0⟩ .threeTransactions = (.ok summary, later) ∧
          summary.rounds = 1 ∧ summary.isFrozen = true ∧ summary.closedBlocks.toNat = 1 := by
  intro feed
  have fits : feed.Fits ⟨0, 0⟩ := by decide +kernel
  have evaluated : (Node.start twoRoundBlocks feed .empty).1.toOption.any (fun node =>
      node.station.world.view.chain.height = 0 ∧
      ∀ take ∈ node.takes ⟨0, 0⟩ .threeTransactions, ∀ call ∈ take.calls,
        call.isFailure = false) = true := by
    decide +kernel
  obtain ⟨node, found, told⟩ := (Option.any_eq_true _ _).mp evaluated
  obtain ⟨height, untroubled⟩ := of_decide_eq_true told
  rcases started : Node.start twoRoundBlocks feed .empty with ⟨fault | begun, ready⟩
  · rw [started] at found
    cases found
  · rw [started] at found
    cases found
    have numbers : node.station.world.view.chain.height * 2 + 1 ≤ 2 ^ 64 * 2 := by
      rw [height]
      decide
    obtain ⟨rounds, made, _, length, _, _, takes, summary, later, ran, fed, frozen, closed⟩ :=
      run_counts_rounds_and_blocks started fits numbers untroubled
    exact ⟨node, ready, rfl, fits, numbers, untroubled, rounds, made, length, takes, summary, later,
      ran, fed, frozen, closed.trans (by decide)⟩

end Node
end ProvenBlocks
