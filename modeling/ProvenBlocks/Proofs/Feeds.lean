import ProvenBlocks.Feed
import ProvenBlocks.Proofs.Instants

/-!
What a feed yields. Unless a number or a time leaves its word, a feed yields as many rounds as its
settings say and then ends. Rounds are numbered from one on and a quarter of a second apart, and
each has so many pairs of a transaction and its result, then one state change. Whatever generator
the pairs are drawn from, they stay in their ranges.
-/

namespace ProvenBlocks

/-! ### Rounds that are to be made -/

/-- The feed yields these rounds one after the other and then ends. -/
inductive Feed.Yields {generator : Generator} : Feed generator → List Round → Prop
  | ended {feed : Feed generator} (next : feed.next? = .ok none) : Yields feed []
  | round {feed after : Feed generator} {round : Round} {later : List Round}
      (next : feed.next? = .ok (some (round, after))) (yields : Yields after later) :
      Yields feed (round :: later)

/-- A transaction and its result, one after the other. -/
def pairItems (pair : Transaction × TransactionResult) : List Item :=
  [.transaction pair.1, .result pair.2]

/-- The ranges that pairs are drawn from. -/
structure IsDrawn (pair : Transaction × TransactionResult) : Prop where
  content : 16 ≤ pair.1.content.length ∧ pair.1.content.length < 128
  fee : 100000 ≤ pair.2.fee ∧ pair.2.fee < 10000000

namespace FeedSettings

/-- The time of the round with this index; later times than that of the clock are normal. -/
def time (clock : Instant) : Nat → Instant
  | 0 => clock
  | index + 1 => clock.later ((index + 1) * Feed.interval.toNat)

/-- The round with an index, counted from zero. -/
structure Makes (settings : FeedSettings) (clock : Instant) (index : Nat) (round : Round) :
    Prop where
  number : round.number.toNat = index + 1
  time : round.time = FeedSettings.time clock index
  elapsed : round.time.toNanos = clock.toNanos + index * Feed.interval.toNat
  freeze : round.freeze = true ↔ settings.freezeRound = some round.number
  items : ∃ (pairs : List (Transaction × TransactionResult)) (changes : StateChanges),
    pairs.length = settings.transactions.toNat ∧ (∀ pair ∈ pairs, IsDrawn pair) ∧
      round.items = pairs.flatMap pairItems ++ [.stateChanges changes]

/-- There is room for the items of a round. Its time and those of its transactions leave no word, and
neither does the time of the round after it. -/
structure FitsRound (settings : FeedSettings) (clock : Instant) (index : Nat) : Prop where
  room : (2 * settings.transactions.toNat + 1) * Feed.itemSize < 2 ^ 63
  following : clock.toNanos + ((index + 1) * Feed.interval.toNat : Nat) < Instant.endOfTime
  pairs : ∀ pair < settings.transactions.toNat,
    (time clock index).nanos.toNat + pair * Feed.spacing < 2 ^ 64 ∧
      (time clock index).toNanos + (pair * Feed.spacing : Nat) < Instant.endOfTime

/-- There is a number after the last round, and room and time for all of them. -/
structure Fits (settings : FeedSettings) (clock : Instant) : Prop where
  numbers : settings.rounds.toNat < 2 ^ 64 - 1
  rounds : ∀ index < settings.rounds.toNat, settings.FitsRound clock index

instance (settings : FeedSettings) (clock : Instant) (index : Nat) :
    Decidable (settings.FitsRound clock index) :=
  decidable_of_iff
    ((2 * settings.transactions.toNat + 1) * Feed.itemSize < 2 ^ 63 ∧
      clock.toNanos + ((index + 1) * Feed.interval.toNat : Nat) < Instant.endOfTime ∧
      ∀ pair < settings.transactions.toNat,
        (time clock index).nanos.toNat + pair * Feed.spacing < 2 ^ 64 ∧
          (time clock index).toNanos + (pair * Feed.spacing : Nat) < Instant.endOfTime)
    ⟨fun ⟨room, following, pairs⟩ => ⟨room, following, pairs⟩,
      fun fits => ⟨fits.room, fits.following, fits.pairs⟩⟩

instance (settings : FeedSettings) (clock : Instant) : Decidable (settings.Fits clock) :=
  decidable_of_iff
    (settings.rounds.toNat < 2 ^ 64 - 1 ∧
      ∀ index < settings.rounds.toNat, settings.FitsRound clock index)
    ⟨fun ⟨numbers, rounds⟩ => ⟨numbers, rounds⟩, fun fits => ⟨fits.numbers, fits.rounds⟩⟩

end FeedSettings

/-! ### One round -/

namespace Feed

theorem check_room_ok {transactions : UInt64}
    (room : (2 * transactions.toNat + 1) * itemSize < 2 ^ 63) : checkRoom transactions = .ok () := by
  simp only [itemSize] at room
  have doubled : checkedMul transactions 2 = .ok (transactions * 2) := by
    apply if_pos
    change transactions.toNat * 2 < 2 ^ 64
    omega
  have pairs : (transactions * 2).toNat = transactions.toNat * 2 := by
    rw [UInt64.toNat_mul]
    apply Nat.mod_eq_of_lt
    change transactions.toNat * 2 < 2 ^ 64
    omega
  have increased : checkedAdd (transactions * 2) 1 = .ok (transactions * 2 + 1) := by
    apply if_pos
    rw [pairs]
    change transactions.toNat * 2 + 1 < 2 ^ 64
    omega
  have count : (transactions * 2 + 1).toNat = 2 * transactions.toNat + 1 := by
    rw [UInt64.toNat_add, pairs]
    change (transactions.toNat * 2 + 1) % 2 ^ 64 = _
    omega
  simp only [checkRoom, doubled, increased, bind, Except.bind, checkedRoom, count, itemSize]
  exact if_pos room

theorem transaction_pair (generator : Generator) (draws : generator.State) (time : Instant) :
    ∃ pair, (transaction generator draws time).1 = pairItems pair ∧ IsDrawn pair := by
  refine ⟨(_, _), rfl, ⟨?_, ?_⟩⟩
  · have ranged : (16 : UInt64) < 128 := by decide
    obtain ⟨least, most⟩ := generator.between_range ranged draws
    rw [generator.bytes_length]
    exact ⟨UInt64.le_iff_toNat_le.mp least, UInt64.lt_iff_toNat_lt.mp most⟩
  · exact generator.between_range (by decide) _

theorem transactions_ok {start : Instant} {index count : Nat} (generator : Generator)
    (draws : generator.State)
    (fits : ∀ pair, index ≤ pair → pair < index + count →
      start.nanos.toNat + pair * spacing < 2 ^ 64 ∧
        start.toNanos + (pair * spacing : Nat) < Instant.endOfTime) :
    ∃ (pairs : List (Transaction × TransactionResult)) (after : generator.State),
      transactions generator draws start index count = .ok (pairs.flatMap pairItems, after) ∧
        pairs.length = count ∧ ∀ pair ∈ pairs, IsDrawn pair := by
  induction count generalizing draws index with
  | zero => exact ⟨[], draws, rfl, rfl, nofun⟩
  | succ count inductive_hypothesis =>
      obtain ⟨small, timely⟩ := fits index (Nat.le_refl _) (by omega)
      have word : (UInt64.ofNat (index * spacing)).toNat = index * spacing := by
        apply UInt64.toNat_ofNat_of_lt'
        simp only [UInt64.size]
        omega
      have time : start.plusNanos (.ofNat (index * spacing)) =
          .ok (start.later (index * spacing)) := by
        rw [Instant.plus_nanos_eq, word]
        exact if_pos ⟨small, timely⟩
      obtain ⟨pair, made, drawn⟩ :=
        transaction_pair generator draws (start.later (index * spacing))
      obtain ⟨pairs, after, later, length, all⟩ := @inductive_hypothesis (index + 1)
        (transaction generator draws (start.later (index * spacing))).2
        fun other least most => fits other (by omega) (by omega)
      refine ⟨pair :: pairs, after, ?_, congrArg (· + 1) length,
        List.forall_mem_cons.mpr ⟨drawn, all⟩⟩
      simp only [transactions, time, bind, Except.bind, later, made]
      rfl

variable {generator : Generator}

/-- The feed before its round with this index. -/
structure IsAt (settings : FeedSettings) (clock : Instant) (index : Nat) (feed : Feed generator) :
    Prop where
  settings : feed.settings = settings
  number : feed.number.toNat = index + 1
  clock : feed.clock = FeedSettings.time clock index

variable {settings : FeedSettings} {clock : Instant} {index : Nat} {feed : Feed generator}

theorem is_at_start (settings : FeedSettings) (clock : Instant) (generator : Generator) :
    IsAt settings clock 0 (start settings clock generator) := ⟨rfl, rfl, rfl⟩

theorem time_after (timely : clock.toNanos + (index * interval.toNat : Nat) < Instant.endOfTime) :
    (FeedSettings.time clock index).later interval.toNat =
      FeedSettings.time clock (index + 1) := by
  rcases index with _ | earlier
  · simp only [FeedSettings.time, Nat.zero_add, Nat.one_mul]
  · rw [FeedSettings.time, FeedSettings.time, Instant.later_later timely, ← Nat.succ_mul]

/-- Times are exact. -/
theorem time_elapsed (timely : clock.toNanos + (index * interval.toNat : Nat) < Instant.endOfTime) :
    (FeedSettings.time clock index).toNanos = clock.toNanos + (index * interval.toNat : Nat) := by
  rcases index with _ | earlier
  · simp only [FeedSettings.time, Nat.zero_mul, Nat.cast_zero, add_zero]
  · exact Instant.to_nanos_later timely

theorem next_ended (isAt : IsAt settings clock settings.rounds.toNat feed) :
    feed.next? = .ok none := by
  have past : feed.settings.rounds < feed.number := by
    rw [UInt64.lt_iff_toNat_lt, isAt.number, isAt.settings]
    exact Nat.lt_succ_self _
  exact if_pos past

/-- Time goes on by the interval. -/
theorem clock_after (isAt : IsAt settings clock index feed)
    (timely : clock.toNanos + ((index + 1) * interval.toNat : Nat) < Instant.endOfTime) :
    feed.clock.plusNanos interval = .ok (FeedSettings.time clock (index + 1)) := by
  have bounded := (FeedSettings.time clock index).nanos.toNat_lt
  have before : clock.toNanos + (index * interval.toNat : Nat) < Instant.endOfTime := by
    rw [Nat.succ_mul] at timely
    omega
  have fits : (FeedSettings.time clock index).nanos.toNat + interval.toNat < 2 ^ 64 ∧
      (FeedSettings.time clock index).toNanos + interval.toNat < Instant.endOfTime := by
    rw [time_elapsed before, add_assoc, ← Nat.cast_add, ← Nat.succ_mul]
    refine ⟨?_, timely⟩
    change _ + 250000000 < _
    omega
  rw [isAt.clock, Instant.plus_nanos_eq, if_pos fits, time_after before]

theorem next_round (isAt : IsAt settings clock index feed) (fits : settings.Fits clock)
    (remaining : index < settings.rounds.toNat) :
    ∃ round after, feed.next? = .ok (some (round, after)) ∧
      settings.Makes clock index round ∧ IsAt settings clock (index + 1) after := by
  obtain ⟨spacious, following, timely⟩ := fits.rounds index remaining
  have before : clock.toNanos + (index * interval.toNat : Nat) < Instant.endOfTime := by
    rw [Nat.succ_mul] at following
    omega
  have more : feed.number.toNat < 2 ^ 64 - 1 := by
    have numbers := fits.numbers
    rw [isAt.number]
    omega
  have ahead : ¬ feed.settings.rounds < feed.number := by
    rw [UInt64.lt_iff_toNat_lt, isAt.number, isAt.settings]
    omega
  have room : checkRoom feed.settings.transactions = .ok () := by
    rw [isAt.settings]
    exact check_room_ok spacious
  have apart : ∀ pair, 0 ≤ pair → pair < 0 + feed.settings.transactions.toNat →
      feed.clock.nanos.toNat + pair * spacing < 2 ^ 64 ∧
        feed.clock.toNanos + (pair * spacing : Nat) < Instant.endOfTime := by
    intro pair _ most
    rw [isAt.clock]
    rw [isAt.settings, Nat.zero_add] at most
    exact timely pair most
  obtain ⟨pairs, draws, made, length, drawn⟩ := transactions_ok generator feed.draws apart
  refine ⟨⟨feed.number, feed.clock, feed.settings.freezeRound == some feed.number,
      pairs.flatMap pairItems ++ [roundChange feed.number feed.clock]⟩,
    ⟨feed.settings, feed.number + 1, FeedSettings.time clock (index + 1), draws⟩, ?_, ?_, ?_⟩
  · simp only [next?, if_neg ahead, checked_succ_ok more, clock_after isAt following, room, made]
    rfl
  · constructor
    · exact isAt.number
    · exact isAt.clock
    · rw [isAt.clock, time_elapsed before]
      rfl
    · rw [isAt.settings, beq_iff_eq]
    · rw [isAt.settings] at length
      exact ⟨pairs, _, length, drawn, rfl⟩
  · constructor
    · exact isAt.settings
    · rw [UInt64.toNat_add, isAt.number]
      change (index + 1 + 1) % 2 ^ 64 = _
      rw [isAt.number] at more
      omega
    · rfl

/-! ### All rounds -/

theorem yields_from (isAt : IsAt settings clock index feed) (fits : settings.Fits clock)
    {remaining : Nat} (whole : index + remaining = settings.rounds.toNat) :
    ∃ rounds, feed.Yields rounds ∧ rounds.length = remaining ∧
      ∀ (place : Nat) (inside : place < rounds.length),
        settings.Makes clock (index + place) rounds[place] := by
  induction remaining generalizing index feed with
  | zero =>
      rw [Nat.add_zero] at whole
      rw [whole] at isAt
      exact ⟨[], .ended (next_ended isAt), rfl, nofun⟩
  | succ remaining inductive_hypothesis =>
      obtain ⟨round, after, next, makes, onward⟩ := next_round isAt fits (by omega)
      obtain ⟨later, yields, length, made⟩ := inductive_hypothesis onward (by omega)
      refine ⟨round :: later, .round next yields, congrArg (· + 1) length, ?_⟩
      intro place inside
      rcases place with _ | place
      · exact makes
      · have one := made place (Nat.lt_of_succ_lt_succ inside)
        rw [Nat.add_assoc, Nat.add_comm 1] at one
        exact one

theorem Yields.rounds_within {rounds : List Round} (yields : feed.Yields rounds) {fuel : Nat}
    (enough : rounds.length ≤ fuel) : roundsWithin fuel feed = .ok rounds := by
  induction yields generalizing fuel with
  | @ended feed next =>
      rcases fuel with _ | fuel
      · rfl
      · simp only [roundsWithin, next, bind, Except.bind]
  | @round feed after round later next _ inductive_hypothesis =>
      obtain ⟨fuel, rfl⟩ := Nat.exists_eq_add_one_of_ne_zero
        (Nat.pos_iff_ne_zero.mp (Nat.lt_of_lt_of_le (Nat.succ_pos _) enough))
      have rest := inductive_hypothesis (Nat.le_of_succ_le_succ enough)
      simp only [roundsWithin, next, bind, Except.bind, rest]

end Feed

namespace FeedSettings

variable {settings : FeedSettings} {clock : Instant}

/-- Of two rounds the one with the greater index comes later. -/
theorem Makes.later {first second : Round} {index other : Nat}
    (makes : settings.Makes clock index first) (makesOther : settings.Makes clock other second)
    (before : index < other) : first.time.order second.time = .lt := by
  apply Instant.order_later
  · obtain ⟨place, rfl⟩ := Nat.exists_eq_add_one_of_ne_zero (Nat.ne_zero_of_lt before)
    rw [makesOther.time]
    exact Instant.later_is_normal _ _
  · rw [makes.elapsed, makesOther.elapsed]
    have further : index * Feed.interval.toNat < other * Feed.interval.toNat :=
      Nat.mul_lt_mul_of_pos_right before (by decide)
    omega

/-- A feed that stays within its words yields all its rounds, each in its place. -/
theorem Fits.yields (fits : settings.Fits clock) (generator : Generator) :
    ∃ rounds, (Feed.start settings clock generator).Yields rounds ∧
      rounds.length = settings.rounds.toNat ∧
      ∀ (index : Nat) (inside : index < rounds.length),
        settings.Makes clock index rounds[index] := by
  obtain ⟨rounds, yields, length, makes⟩ :=
    Feed.yields_from (Feed.is_at_start settings clock generator) fits (Nat.zero_add _)
  refine ⟨rounds, yields, length, ?_⟩
  intro index inside
  have one := makes index inside
  rwa [Nat.zero_add] at one

end FeedSettings

/-! ### Recorded draws -/

inductive Draw where
  | word (value : UInt64)
  | bytes (content : Bytes)
  | chance (happens : Bool)

namespace Generator

def replayBetween (low high : UInt64) : List Draw → UInt64 × List Draw
  | .word value :: later => (if low ≤ value ∧ value < high then value else low, later)
  | draws => (low, draws)

def replayBytes (size : Nat) : List Draw → Bytes × List Draw
  | .bytes content :: later => ((content ++ List.replicate size 0).take size, later)
  | draws => (List.replicate size 0, draws)

def replayChance : List Draw → Bool × List Draw
  | .chance happens :: later => (happens, later)
  | draws => (false, draws)

/-- Gives out what was recorded of another generator. What the record has no answer for is the
least that may come. -/
def replay (recorded : List Draw) : Generator where
  State := List Draw
  ofSeed := fun _ => recorded
  ofEntropy := recorded
  between := replayBetween
  bytes := replayBytes
  chance := fun _ _ => replayChance
  between_range := by
    intro low high ordered draws
    have least : low ≤ low ∧ low < high := ⟨UInt64.le_refl low, ordered⟩
    unfold replayBetween
    split
    · dsimp only
      split
      · assumption
      · exact least
    · exact least
  bytes_length := by
    intro size draws
    unfold replayBytes
    split
    · rw [List.length_take, List.length_append, List.length_replicate]
      omega
    · exact List.length_replicate

/-- The draws for three transactions from the seed 15638. -/
def threeTransactions : Generator := replay
  [.word 16, .bytes [87, 147, 21, 126, 245, 105, 55, 82, 4, 65, 105, 198, 141, 136, 98, 117],
    .chance false, .word 9943817,
    .word 17, .bytes [228, 49, 100, 129, 220, 142, 216, 173, 239, 125, 162, 27, 196, 123, 82, 127,
      191], .chance true, .word 6981705,
    .word 21, .bytes [54, 92, 194, 45, 171, 157, 88, 105, 24, 134, 24, 199, 113, 249, 32, 112, 44,
      13, 196, 198, 7], .chance true, .word 7045356]

end Generator
end ProvenBlocks
