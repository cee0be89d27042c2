import ProvenBlocks.Assembler
import ProvenBlocks.Environment
import ProvenBlocks.Generator

/-!
A feed of made-up rounds, a quarter of a second apart. Each round has pairs of a transaction and
its result, then one state change that holds the round number. What transactions hold is drawn from
a generator, so a generator and a seed determine the whole feed.
-/

namespace ProvenBlocks

structure FeedSettings where
  rounds : UInt64
  transactions : UInt64
  freezeRound : Option UInt64
  seed : Option UInt64
  deriving DecidableEq

namespace FeedSettings

def default : FeedSettings := ⟨20, 4, none, none⟩

def readEnvironment (environment : Environment) : Except BadNumber FeedSettings := do
  let rounds ← environment.word64? "QC_SIM_ROUNDS"
  let transactions ← environment.word64? "QC_SIM_TXS_PER_ROUND"
  let freezeRound ← environment.word64? "QC_SIM_FREEZE_ROUND"
  let seed ← environment.word64? "QC_SIM_SEED"
  .ok ⟨rounds.getD default.rounds, transactions.getD default.transactions, freezeRound, seed⟩

def badNumber (bad : BadNumber) : ErrorTrail :=
  ["Invalid value for " ++ bad.name ++ ": " ++ bad.raw, bad.fault.message]

def ofEnvironment (environment : Environment) : Except ErrorTrail FeedSettings :=
  (readEnvironment environment).mapError badNumber

end FeedSettings

structure Feed (generator : Generator) where
  settings : FeedSettings
  number : UInt64
  clock : Instant
  draws : generator.State

namespace Feed

def interval : UInt64 := 250000000

/-- Nanoseconds between the transactions of one round. -/
def spacing : Nat := 1000

/-- Without a seed in the settings the draws start from entropy. -/
def start (settings : FeedSettings) (clock : Instant) (generator : Generator) : Feed generator :=
  let draws := match settings.seed with
    | some seed => generator.ofSeed seed
    | none => generator.ofEntropy
  ⟨settings, 1, clock, draws⟩

def transaction (generator : Generator) (draws : generator.State) (time : Instant) :
    List Item × generator.State :=
  let (size, draws) := generator.between 16 128 draws
  let (content, draws) := generator.bytes size.toNat draws
  let (succeeds, draws) := generator.chance 95 100 draws
  let (fee, draws) := generator.between 100000 10000000 draws
  let outcome := if succeeds then Outcome.success else .failed
  ([.transaction ⟨content⟩, .result ⟨outcome, time, fee⟩], draws)

def transactions (generator : Generator) (draws : generator.State) (start : Instant)
    (index : Nat) : Nat → Except Overflow (List Item × generator.State)
  | 0 => .ok ([], draws)
  | count + 1 => do
      let time ← start.plusNanos (UInt64.ofNat (index * spacing))
      let (pair, draws) := transaction generator draws time
      let (later, draws) ← transactions generator draws start (index + 1) count
      .ok (pair ++ later, draws)

/-- What one item takes in memory. -/
def itemSize : Nat := 104

/-- Room is made for all items of a round, two for each transaction, before the first is drawn. -/
def checkRoom (transactions : UInt64) : Except Overflow Unit := do
  let pairs ← checkedMul transactions 2
  let count ← checkedAdd pairs 1
  checkedRoom count.toNat itemSize

def roundChange (number : UInt64) (time : Instant) : Item :=
  .stateChanges ⟨time, [⟨"round", .raw (littleEndian 8 number.toNat)⟩]⟩

variable {generator : Generator}

/-- The next round and the feed after it; none when all rounds have been produced. -/
def next? (feed : Feed generator) : Except Overflow (Option (Round × Feed generator)) :=
  if feed.settings.rounds < feed.number then .ok none
  else do
    let following ← checkedSucc feed.number
    let clock ← feed.clock.plusNanos interval
    checkRoom feed.settings.transactions
    let (items, draws) ←
      transactions generator feed.draws feed.clock 0 feed.settings.transactions.toNat
    let freeze := feed.settings.freezeRound == some feed.number
    let items := items ++ [roundChange feed.number feed.clock]
    .ok (some (⟨feed.number, feed.clock, freeze, items⟩,
      { feed with number := following, clock := clock, draws := draws }))

def roundsWithin : Nat → Feed generator → Except Overflow (List Round)
  | 0, _ => .ok []
  | fuel + 1, feed => do
      match ← feed.next? with
      | none => .ok []
      | some (round, after) =>
          let later ← roundsWithin fuel after
          .ok (round :: later)

/-- All rounds of the feed. -/
def rounds (feed : Feed generator) : Except Overflow (List Round) :=
  roundsWithin feed.settings.rounds.toNat feed

end Feed
end ProvenBlocks
