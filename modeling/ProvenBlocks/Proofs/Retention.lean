import ProvenBlocks.Proofs.Queries

/-!
What a chain retains of its history. The hashes known at the start and those appended since make up
one list. A chain answers from the newest 256 of them, counted back from the last block. The oldest
number that it answers is the one that it tells, unless it started with more hashes than blocks.
-/

namespace ProvenBlocks

/-- A hash that is to be appended under a number. -/
structure Offer where
  number : UInt64
  hash : Digest

/-- The hashes of the offers that come in turn, from the next number on. -/
def inTurn (next : Nat) : List Offer → List Digest
  | [] => []
  | offer :: later =>
      if offer.number.toNat = next then offer.hash :: inTurn (next + 1) later
      else inTurn next later

namespace Chain

/-- The chain after an offer; one that is refused leaves it as it was. -/
def offer (chain : Chain) (offer : Offer) : Chain :=
  match chain.append offer.number offer.hash with
  | .ok (_, extended) => extended
  | .error _ => chain

def offerAll (chain : Chain) (offers : List Offer) : Chain := offers.foldl Chain.offer chain

/-- Answers are the newest of the known hashes, counted back from the last block. -/
structure AnswersFrom (chain : Chain) (known : List Digest) : Prop where
  answered : ∀ number, (chain.hashOf number).isSome ↔ ∃ last, chain.lastNumber = some last ∧
    number.toNat ≤ last.toNat ∧ last.toNat - number.toNat < min hashHistorySize known.length
  entry : ∀ number hash last, chain.hashOf number = some hash → chain.lastNumber = some last →
    known[known.length - 1 - (last.toNat - number.toNat)]? = some hash
  newest : chain.lastHash = chain.lastNumber.bind chain.hashOf
  trailing : chain.trailing = known.rtake hashHistorySize

/-- The least number with an answer. -/
def IsHorizon (chain : Chain) (number : UInt64) : Prop :=
  (chain.hashOf number).isSome ∧
    ∀ other, (chain.hashOf other).isSome → number.toNat ≤ other.toNat

end Chain

namespace Startup

/-- The chain resumes after another hash than the newest of a checkpoint that has a hash for every
block. -/
def Overfills (startup : Startup) : Prop :=
  ∃ number lastHash, startup.checkpoint.blockNumber = some number ∧
    startup.anchor = some (.resume lastHash) ∧
    startup.checkpoint.lastHash ≠ some lastHash ∧
    startup.checkpoint.blockHashes.length = number.toNat + 1

/-- How many blocks there are up to the last one. -/
def height (startup : Startup) : Nat :=
  match startup.checkpoint.blockNumber with
  | none => 0
  | some last => last.toNat + 1

/-- The hashes known at the start, oldest first: those of the checkpoint, and the one that is
resumed after if it is another. A chain that starts anew knows none. -/
def hashes (startup : Startup) : List Digest :=
  match startup.anchor with
  | none => startup.checkpoint.blockHashes
  | some .genesis => []
  | some (.resume lastHash) =>
      if startup.checkpoint.blockNumber.isSome ∧ startup.checkpoint.lastHash ≠ some lastHash then
        startup.checkpoint.blockHashes ++ [lastHash]
      else startup.checkpoint.blockHashes

/-- What the chain takes of the offers, which is nothing without an anchor. -/
def taken (startup : Startup) (offers : List Offer) : List Digest :=
  if startup.anchor.isSome then inTurn startup.height offers else []

def knownHashes (startup : Startup) (offers : List Offer) : List Digest :=
  startup.hashes ++ startup.taken offers

/-- How many blocks there are after the offers. -/
def blocks (startup : Startup) (offers : List Offer) : Nat :=
  startup.height + (startup.taken offers).length

end Startup

/-! ### Offers -/

/-- As long as no offer has the greatest number of all, there is a number left after them. -/
theorem in_turn_bounded {next : Nat} {offers : List Offer} (bounded : next < 2 ^ 64)
    (numbered : ∀ offer ∈ offers, offer.number.toNat < 2 ^ 64 - 1) :
    next + (inTurn next offers).length < 2 ^ 64 := by
  induction offers generalizing next with
  | nil => exact bounded
  | cons offer later inductive_hypothesis =>
      have rest : ∀ other ∈ later, other.number.toNat < 2 ^ 64 - 1 :=
        fun other member => numbered other (List.mem_cons_of_mem _ member)
      simp only [inTurn]
      split
      · rename_i turn
        have less := numbered offer (List.mem_cons_self ..)
        have reached := @inductive_hypothesis (next + 1) (by omega) rest
        rw [List.length_cons]
        omega
      · exact inductive_hypothesis bounded rest

namespace Chain

theorem append_in_turn {chain : Chain} {number : UInt64} (anchored : chain.isInitialized)
    (turn : number.toNat = chain.height) (hash : Digest) :
    chain.append number hash =
      .ok ((chain.history.push hash).1, chain.extended number hash) := by
  have next : chain.nextNumber = .ok number := by
    have bounded := number.toNat_lt
    rcases next : chain.nextNumber with overflow | expected
    · obtain ⟨last, lastNumber, greatest⟩ := next_number_overflow next
      simp only [height, lastNumber] at turn
      omega
    · have same : expected.toNat = number.toNat := (next_number_height next).trans turn.symm
      rw [UInt64.toNat_inj.mp same]
  simp only [append, if_pos anchored, next, if_true]
  rfl

theorem append_out_of_turn {chain : Chain} {number : UInt64}
    (refused : ¬ (chain.isInitialized ∧ number.toNat = chain.height)) (hash : Digest) :
    ∃ failure, chain.append number hash = .error failure := by
  rcases appended : chain.append number hash with failure | ⟨evicted, after⟩
  · exact ⟨failure, rfl⟩
  · have turn := next_number_height (append_ok appended).1
    have anchored : chain.isInitialized := by
      unfold append at appended
      split at appended
      · assumption
      · contradiction
    exact absurd ⟨anchored, turn⟩ refused

/-- Only the next number is taken, and only by a chain that has something to build on. -/
theorem offer_eq (chain : Chain) (offer : Offer) :
    chain.offer offer =
      if chain.isInitialized ∧ offer.number.toNat = chain.height then
        chain.extended offer.number offer.hash
      else chain := by
  unfold Chain.offer
  split
  · rename_i evicted extended appended
    split
    · rename_i turn
      rw [append_in_turn turn.1 turn.2] at appended
      cases appended
      rfl
    · rename_i refused
      obtain ⟨failure, error⟩ := append_out_of_turn refused offer.hash
      rw [error] at appended
      contradiction
  · rename_i failure error
    split
    · rename_i turn
      rw [append_in_turn turn.1 turn.2] at error
      contradiction
    · rfl

theorem initialized_offer_all (chain : Chain) (offers : List Offer) :
    (chain.offerAll offers).isInitialized = chain.isInitialized := by
  induction offers generalizing chain with
  | nil => rfl
  | cons offer later inductive_hypothesis =>
      rw [offerAll, List.foldl_cons]
      refine (inductive_hypothesis (chain.offer offer)).trans ?_
      rw [offer_eq]
      split
      · rename_i turn
        exact turn.1.symm
      · rfl

/-- The chain after so many blocks, with all hashes that it was told. -/
structure Recalls (chain : Chain) (blocks : Nat) (known : List Digest) : Prop where
  height : chain.height = blocks
  capacity : chain.history.capacity = hashHistorySize
  holds : chain.history.Holds known

variable {chain : Chain} {blocks : Nat} {known : List Digest}

theorem Recalls.extended (recalls : chain.Recalls blocks known) {number : UInt64}
    (turn : number.toNat = blocks) (hash : Digest) :
    (chain.extended number hash).Recalls (blocks + 1) (known ++ [hash]) where
  height := congrArg (· + 1) turn
  capacity := (Window.push_capacity _ _).trans recalls.capacity
  holds := recalls.holds.push hash

/-- Offers in turn are remembered, and all others make no difference. -/
theorem Recalls.offer_all (recalls : chain.Recalls blocks known) (anchored : chain.isInitialized)
    (offers : List Offer) :
    (chain.offerAll offers).Recalls (blocks + (inTurn blocks offers).length)
      (known ++ inTurn blocks offers) := by
  induction offers generalizing chain blocks known with
  | nil =>
      rw [inTurn, List.append_nil]
      exact recalls
  | cons offer later inductive_hypothesis =>
      have offered := chain.offer_eq offer
      rw [recalls.height] at offered
      rw [offerAll, List.foldl_cons, offered, inTurn]
      by_cases turn : offer.number.toNat = blocks
      · rw [if_pos ⟨anchored, turn⟩, if_pos turn, List.length_cons]
        have reached := inductive_hypothesis (recalls.extended turn offer.hash) rfl
        rw [List.append_assoc] at reached
        rw [show blocks + ((inTurn (blocks + 1) later).length + 1) =
          blocks + 1 + (inTurn (blocks + 1) later).length by omega]
        exact reached
      · rw [if_neg fun taken => turn taken.2, if_neg turn]
        exact inductive_hypothesis recalls anchored

theorem offer_all_unanchored (unanchored : chain.isInitialized = false) (offers : List Offer) :
    chain.offerAll offers = chain := by
  induction offers with
  | nil => rfl
  | cons offer later inductive_hypothesis =>
      have refused : chain.offer offer = chain := by
        rw [offer_eq, unanchored]
        exact if_neg fun taken => Bool.false_ne_true taken.1
      rw [offerAll, List.foldl_cons, refused]
      exact inductive_hypothesis

/-! ### Answers -/

theorem Recalls.size (recalls : chain.Recalls blocks known) :
    chain.history.size = min hashHistorySize known.length := by
  rw [← recalls.capacity]
  exact recalls.holds.length

/-- The answer for a number is the known hash at its distance from the last block. -/
theorem Recalls.hash_of (recalls : chain.Recalls blocks known) {last number : UInt64}
    (lastNumber : chain.lastNumber = some last) (reached : number.toNat ≤ last.toNat) :
    chain.hashOf number =
      if last.toNat - number.toNat < hashHistorySize then
        known.reverse[last.toNat - number.toNat]?
      else none := by
  have entries : chain.history.entries = known.rtake hashHistorySize := by
    rw [← recalls.capacity]
    exact recalls.holds
  rw [hash_of_back lastNumber reached, entries, List.rtake_eq_reverse_take_reverse,
    List.reverse_reverse, List.getElem?_take]

theorem Recalls.answers_from (recalls : chain.Recalls blocks known) :
    chain.AnswersFrom known where
  answered := by
    intro number
    rcases lastNumber : chain.lastNumber with _ | last
    · simp [hashOf, lastNumber]
    · by_cases reached : number.toNat ≤ last.toNat
      · rw [recalls.hash_of lastNumber reached]
        simp only [Option.some.injEq, exists_eq_left', reached, true_and, Nat.lt_min]
        split
        · rename_i near
          simp [near]
        · rename_i far
          simp [far]
      · have above : chain.height ≤ number.toNat := by
          simp only [Chain.height, lastNumber]
          omega
        simp [hash_of_above above, reached]
  entry := by
    intro number hash last answer lastNumber
    by_cases reached : number.toNat ≤ last.toNat
    · rw [recalls.hash_of lastNumber reached] at answer
      split at answer
      · obtain ⟨inside, _⟩ := List.getElem?_eq_some_iff.mp answer
        rw [List.length_reverse] at inside
        rwa [List.getElem?_reverse inside] at answer
      · cases answer
    · have above : chain.height ≤ number.toNat := by
        simp only [Chain.height, lastNumber]
        omega
      rw [hash_of_above above] at answer
      cases answer
  newest := rfl
  trailing := by
    rw [← recalls.capacity]
    exact recalls.holds

/-! ### The horizon -/

theorem IsHorizon.unique {number other : UInt64} (first : chain.IsHorizon number)
    (second : chain.IsHorizon other) : number = other := by
  apply UInt64.toNat_inj.mp
  apply Nat.le_antisymm
  · exact first.2 other second.1
  · exact second.2 number first.1

/-- Without answers there is no horizon. -/
theorem tells_none (nothing : ∀ number, chain.hashOf number = none) :
    ((none : Option UInt64) = none ↔ ∀ number, chain.hashOf number = none) ∧
      ∀ number, none = some number ↔ chain.IsHorizon number := by
  simp only [nothing, IsHorizon, Option.isSome_none, Bool.false_eq_true, false_and, reduceCtorEq,
    implies_true, and_self]

theorem IsHorizon.tells {number : UInt64} (horizon : chain.IsHorizon number) :
    (some number = none ↔ ∀ other, chain.hashOf other = none) ∧
      ∀ other, some number = some other ↔ chain.IsHorizon other := by
  constructor
  · constructor
    · intro absent
      cases absent
    · intro unanswered
      have answered := horizon.1
      rw [unanswered] at answered
      cases answered
  · intro other
    constructor
    · intro same
      cases same
      exact horizon
    · intro found
      rw [horizon.unique found]

variable {last : UInt64}

theorem Recalls.last_number (recalls : chain.Recalls blocks known)
    (lastNumber : chain.lastNumber = some last) : last.toNat + 1 = blocks := by
  have height := recalls.height
  simpa only [Chain.height, lastNumber] using height

theorem Recalls.exists_last (recalls : chain.Recalls blocks known) (positive : 0 < blocks) :
    ∃ last, chain.lastNumber = some last := by
  have height := recalls.height
  rcases lastNumber : chain.lastNumber with _ | last
  · simp only [Chain.height, lastNumber] at height
    omega
  · exact ⟨last, rfl⟩

theorem Recalls.words (recalls : chain.Recalls blocks known) (bounded : blocks < 2 ^ 64)
    (lastNumber : chain.lastNumber = some last) :
    (last + 1).toNat = blocks ∧
      (UInt64.ofNat chain.history.size).toNat = chain.history.size := by
  have reached := recalls.last_number lastNumber
  have size := recalls.size
  constructor
  · rw [UnprovenRun.to_nat_succ (by omega), reached]
  · apply UInt64.toNat_ofNat_of_lt'
    simp only [hashHistorySize, UInt64.size] at size ⊢
    omega

theorem Recalls.oldest_eq (recalls : chain.Recalls blocks known) (bounded : blocks < 2 ^ 64)
    (lastNumber : chain.lastNumber = some last) (nonempty : chain.history.size ≠ 0) :
    chain.oldestRetained =
      (checkedSub (last + 1) (UInt64.ofNat chain.history.size)).map some := by
  have reached := recalls.last_number lastNumber
  simp only [oldestRetained, lastNumber, if_neg nonempty,
    checked_succ_ok (show last.toNat < 2 ^ 64 - 1 by omega)]
  rfl

/-- With more hashes than blocks there is no number for the oldest one. -/
theorem Recalls.oldest_overflows (recalls : chain.Recalls blocks known)
    (bounded : blocks < 2 ^ 64) (lastNumber : chain.lastNumber = some last)
    (exceeds : blocks < chain.history.size) :
    chain.oldestRetained = .error .subtraction := by
  obtain ⟨successor, size⟩ := recalls.words bounded lastNumber
  rw [recalls.oldest_eq bounded lastNumber (by omega), checkedSub, if_neg (by omega)]
  rfl

/-- Without more hashes than blocks, the number that is told is the horizon. -/
theorem Recalls.oldest_answered (recalls : chain.Recalls blocks known)
    (bounded : blocks < 2 ^ 64) (fits : min hashHistorySize known.length ≤ blocks) :
    ∃ oldest, chain.oldestRetained = .ok oldest ∧
      (oldest = none ↔ ∀ number, chain.hashOf number = none) ∧
      ∀ number, oldest = some number ↔ chain.IsHorizon number := by
  have answered := recalls.answers_from.answered
  rw [← recalls.size] at fits
  simp only [← recalls.size] at answered
  rcases lastNumber : chain.lastNumber with _ | last
  · refine ⟨none, by simp only [oldestRetained, lastNumber], tells_none ?_⟩
    intro number
    simp only [hashOf, lastNumber]
  · by_cases empty : chain.history.size = 0
    · refine ⟨none, ?_, tells_none ?_⟩
      · simp only [oldestRetained, lastNumber, if_pos empty]
      · intro number
        rw [← Option.not_isSome_iff_eq_none, answered]
        rintro ⟨_, _, _, near⟩
        omega
    · obtain ⟨successor, size⟩ := recalls.words bounded lastNumber
      have reached := recalls.last_number lastNumber
      have oldest : (last + 1 - UInt64.ofNat chain.history.size).toNat =
          blocks - chain.history.size := by
        rw [UInt64.toNat_sub_of_le _ _ (UInt64.le_iff_toNat_le.mpr (by omega)), successor, size]
      refine ⟨some (last + 1 - UInt64.ofNat chain.history.size), ?_, IsHorizon.tells ?_⟩
      · rw [recalls.oldest_eq bounded lastNumber empty, checkedSub, if_pos (by omega)]
        rfl
      constructor
      · rw [answered, oldest]
        exact ⟨last, lastNumber, by omega, by omega⟩
      · intro other found
        obtain ⟨_, same, _, near⟩ := (answered other).mp found
        cases lastNumber.symm.trans same
        rw [oldest]
        omega

end Chain

/-! ### From the start -/

namespace Startup

variable {startup : Startup}

/-- When a hash is added to those of the checkpoint. -/
theorem adds_iff (checkpoint : Checkpoint) (lastHash : Digest) :
    (Window.ofList hashHistorySize checkpoint.blockHashes).newest? ≠ some lastHash ↔
      checkpoint.lastHash ≠ some lastHash := by
  rw [Window.of_list_newest]
  rfl

theorem height_stored (startup : Startup) :
    startup.height = startup.checkpoint.view.chain.height := rfl

theorem height_start (startup : Startup) :
    (Chain.start startup.checkpoint startup.anchor).height = startup.height := by
  rw [height_stored, Chain.height, Chain.start_last_number]
  rfl

theorem initialized_start (startup : Startup) :
    (Chain.start startup.checkpoint startup.anchor).isInitialized = startup.anchor.isSome := by
  rcases startup with ⟨checkpoint, _ | lastHash | _⟩ <;> rfl

theorem seeded_ok {chain : Chain} (seeded : Chain.seeded startup = .ok chain) :
    startup.checkpoint.validate = .ok () ∧
      chain = Chain.start startup.checkpoint startup.anchor := by
  unfold Chain.seeded at seeded
  rcases valid : startup.checkpoint.validate with failure | _
  · rw [valid] at seeded
    contradiction
  · rw [valid] at seeded
    cases seeded
    exact ⟨rfl, rfl⟩

theorem recalls_start (startup : Startup) :
    (Chain.start startup.checkpoint startup.anchor).Recalls startup.height startup.hashes where
  height := startup.height_start
  capacity := Chain.start_capacity _ _
  holds := by
    have stored := Window.of_list_holds hashHistorySize startup.checkpoint.blockHashes
    rcases startup with ⟨checkpoint, _ | lastHash | _⟩
    · exact stored
    · simp only [Chain.start, hashes, adds_iff]
      split
      · exact stored.push lastHash
      · exact stored
    · exact (Window.empty hashHistorySize).holds_entries

/-- The chain after the offers has all hashes that were told at the start or taken since. -/
theorem recalls_offers {chain : Chain} (seeded : Chain.seeded startup = .ok chain)
    (offers : List Offer) :
    (chain.offerAll offers).Recalls (startup.blocks offers) (startup.knownHashes offers) := by
  obtain ⟨_, rfl⟩ := seeded_ok seeded
  have recalls := startup.recalls_start
  have initialized := startup.initialized_start
  unfold blocks knownHashes taken
  split
  · rename_i anchored
    exact recalls.offer_all (initialized.trans anchored) offers
  · rename_i unanchored
    rw [List.append_nil, Chain.offer_all_unanchored (by rw [initialized]; simpa using unanchored)]
    exact recalls

theorem hashes_overfilled (overfills : startup.Overfills) :
    startup.hashes.length = startup.height + 1 := by
  obtain ⟨number, lastHash, last, resumes, different, retained⟩ := overfills
  have known : startup.hashes = startup.checkpoint.blockHashes ++ [lastHash] := by
    simp only [hashes, resumes]
    exact if_pos ⟨by rw [last]; rfl, different⟩
  simp only [known, height, last, List.length_append, List.length_singleton, retained]

theorem Overfills.blocks_positive (overfills : startup.Overfills) (offers : List Offer) :
    0 < startup.blocks offers := by
  obtain ⟨number, _, last, _⟩ := overfills
  simp only [blocks, height, last]
  omega

/-- Otherwise no more hashes than blocks are known. -/
theorem hashes_fit (valid : startup.checkpoint.validate = .ok ()) (fits : ¬ startup.Overfills) :
    startup.hashes.length ≤ startup.height := by
  have retained := (Checkpoint.view_of_valid valid).1
  rw [← startup.height_stored] at retained
  rcases anchor : startup.anchor with _ | lastHash | _
  · simp only [hashes, anchor]
    exact retained
  · simp only [hashes, anchor]
    split
    · rename_i adds
      obtain ⟨number, last⟩ := Option.isSome_iff_exists.mp adds.1
      have fewer : startup.checkpoint.blockHashes.length ≠ number.toNat + 1 :=
        fun equal => fits ⟨number, lastHash, last, anchor, adds.2, equal⟩
      rw [List.length_append, List.length_singleton]
      simp only [Startup.height, last] at retained ⊢
      omega
    · exact retained
  · simp only [hashes, anchor]
    exact Nat.zero_le _

theorem height_bounded (valid : startup.checkpoint.validate = .ok ()) :
    startup.height < 2 ^ 64 := by
  obtain ⟨number, next⟩ := (Checkpoint.view_of_valid valid).2
  rw [height_stored, ← Chain.next_number_height next]
  exact number.toNat_lt

theorem blocks_bounded {offers : List Offer} (valid : startup.checkpoint.validate = .ok ())
    (numbered : ∀ offer ∈ offers, offer.number.toNat < 2 ^ 64 - 1) :
    startup.blocks offers < 2 ^ 64 := by
  have start := height_bounded valid
  unfold blocks taken
  split
  · exact in_turn_bounded start numbered
  · exact start

/-- More hashes than blocks are known after the offers only if the chain starts so. -/
theorem exceeds_iff (valid : startup.checkpoint.validate = .ok ()) (offers : List Offer) :
    startup.blocks offers < min hashHistorySize (startup.knownHashes offers).length ↔
      startup.Overfills ∧ startup.blocks offers < hashHistorySize := by
  have length : (startup.knownHashes offers).length =
      startup.hashes.length + (startup.taken offers).length := List.length_append
  have blocks : startup.blocks offers = startup.height + (startup.taken offers).length := rfl
  by_cases overfills : startup.Overfills
  · have hashes := hashes_overfilled overfills
    simp only [overfills, true_and]
    omega
  · have hashes := hashes_fit valid overfills
    simp only [overfills, false_and, iff_false]
    omega

theorem initialized_offers {chain : Chain} (seeded : Chain.seeded startup = .ok chain)
    (offers : List Offer) : (chain.offerAll offers).isInitialized = startup.anchor.isSome := by
  obtain ⟨_, rfl⟩ := seeded_ok seeded
  rw [Chain.initialized_offer_all, initialized_start]

end Startup

/-! ### What is answered -/

section

variable {startup : Startup} {chain : Chain}

/-- Whatever is offered, the chain answers from the newest of the known hashes. A hash is refused
without an anchor or out of turn, and then it makes no difference. -/
theorem answers_come_from_history (seeded : Chain.seeded startup = .ok chain)
    (offers : List Offer) :
    (chain.offerAll offers).AnswersFrom (startup.knownHashes offers) ∧
      (chain.offerAll offers).height = startup.blocks offers ∧
      ∀ offer : Offer,
        ((∃ failure, (chain.offerAll offers).append offer.number offer.hash = .error failure) ↔
          startup.anchor = none ∨ offer.number.toNat ≠ startup.blocks offers) ∧
        (startup.anchor = none ∨ offer.number.toNat ≠ startup.blocks offers →
          chain.offerAll (offers ++ [offer]) = chain.offerAll offers) := by
  have recalls := Startup.recalls_offers seeded offers
  have anchored := Startup.initialized_offers seeded offers
  refine ⟨recalls.answers_from, recalls.height, fun offer => ?_⟩
  have refused : startup.anchor = none ∨ offer.number.toNat ≠ startup.blocks offers ↔
      ¬ ((chain.offerAll offers).isInitialized ∧
        offer.number.toNat = (chain.offerAll offers).height) := by
    rw [anchored, recalls.height, not_and_or, Option.not_isSome_iff_eq_none]
  rw [refused]
  constructor
  · constructor
    · rintro ⟨failure, error⟩ ⟨initialized, turn⟩
      rw [Chain.append_in_turn initialized turn] at error
      contradiction
    · intro outOfTurn
      exact Chain.append_out_of_turn outOfTurn offer.hash
  · intro outOfTurn
    rw [Chain.offerAll, List.foldl_append]
    exact ((chain.offerAll offers).offer_eq offer).trans (if_neg outOfTurn)

/-- A stream that resumes after its second block is offered the third one and one out of turn. -/
theorem resumed_chain_answers :
    let digest : UInt8 → Digest := fun byte => ⟨List.replicate 48 byte, rfl⟩
    let startup : Startup := .resume ⟨some 1, some ⟨1, 0⟩, [], [digest 1]⟩ (digest 2)
    let offers : List Offer := [⟨7, digest 4⟩, ⟨2, digest 3⟩]
    let chain := Chain.start startup.checkpoint startup.anchor
    Chain.seeded startup = .ok chain ∧
      startup.knownHashes offers = [digest 1, digest 2, digest 3] ∧
      (chain.offerAll offers).AnswersFrom [digest 1, digest 2, digest 3] ∧
      (chain.offerAll offers).height = 3 := by
  intro digest startup offers chain
  have seeded : Chain.seeded startup = .ok chain := rfl
  have known : startup.knownHashes offers = [digest 1, digest 2, digest 3] := by decide
  obtain ⟨answers, height, _⟩ := answers_come_from_history seeded offers
  rw [known] at answers
  exact ⟨seeded, known, answers, height⟩

/-- The number that is told for the oldest hash is the least one with an answer, and none is told if
there are no answers. Only a chain that starts with one hash more than blocks fails to tell, until
its window is full. -/
theorem oldest_retained_is_horizon (seeded : Chain.seeded startup = .ok chain)
    {offers : List Offer} (numbered : ∀ offer ∈ offers, offer.number.toNat < 2 ^ 64 - 1) :
    ((chain.offerAll offers).oldestRetained = .error .subtraction ↔
      startup.Overfills ∧ startup.blocks offers < hashHistorySize) ∧
    (¬ (startup.Overfills ∧ startup.blocks offers < hashHistorySize) →
      ∃ oldest, (chain.offerAll offers).oldestRetained = .ok oldest ∧
        (oldest = none ↔ ∀ number, (chain.offerAll offers).hashOf number = none) ∧
        ∀ number, oldest = some number ↔ (chain.offerAll offers).IsHorizon number) := by
  have recalls := Startup.recalls_offers seeded offers
  have valid := (Startup.seeded_ok seeded).1
  have bounded := Startup.blocks_bounded valid numbered
  have exceeds := Startup.exceeds_iff valid offers
  have answered (fits : ¬ (startup.Overfills ∧ startup.blocks offers < hashHistorySize)) :=
    recalls.oldest_answered bounded (Nat.le_of_not_lt fun more => fits (exceeds.mp more))
  constructor
  · constructor
    · intro overflow
      by_contra fits
      obtain ⟨oldest, told, _⟩ := answered fits
      rw [told] at overflow
      cases overflow
    · intro overfilled
      have more := exceeds.mpr overfilled
      obtain ⟨last, lastNumber⟩ := recalls.exists_last (overfilled.1.blocks_positive offers)
      rw [← recalls.size] at more
      exact recalls.oldest_overflows bounded lastNumber more
  · exact answered

/-- A stream that resumes after its block 7, with a hash of the block before, is offered block 8. -/
theorem resumed_chain_tells_horizon :
    let digest : UInt8 → Digest := fun byte => ⟨List.replicate 48 byte, rfl⟩
    let startup : Startup := .resume ⟨some 7, some ⟨1, 0⟩, [], [digest 1]⟩ (digest 2)
    let offers : List Offer := [⟨8, digest 3⟩]
    let chain := Chain.start startup.checkpoint startup.anchor
    Chain.seeded startup = .ok chain ∧
      (∀ offer ∈ offers, offer.number.toNat < 2 ^ 64 - 1) ∧
      ∃ oldest, (chain.offerAll offers).oldestRetained = .ok oldest ∧ oldest = some 6 ∧
        (oldest = none ↔ ∀ number, (chain.offerAll offers).hashOf number = none) ∧
        ∀ number, oldest = some number ↔ (chain.offerAll offers).IsHorizon number := by
  intro digest startup offers chain
  have seeded : Chain.seeded startup = .ok chain := rfl
  have numbered : ∀ offer ∈ offers, offer.number.toNat < 2 ^ 64 - 1 := by decide
  have fits : ¬ startup.Overfills := by
    rintro ⟨number, _, last, _, _, full⟩
    cases last
    exact absurd full (by decide)
  obtain ⟨oldest, told, horizon⟩ := (oldest_retained_is_horizon seeded numbered).2
    fun overfilled => fits overfilled.1
  have evaluated : (chain.offerAll offers).oldestRetained = .ok (some 6) := by decide
  rw [told] at evaluated
  exact ⟨seeded, numbered, oldest, told, Except.ok.inj evaluated, horizon⟩

/-- A checkpoint with a hash for its only block is resumed after another hash. The chain answers for
the block, but it fails to tell its oldest number. -/
theorem overfilled_chain_has_no_oldest :
    let digest : UInt8 → Digest := fun byte => ⟨List.replicate 48 byte, rfl⟩
    let startup : Startup := .resume ⟨some 0, none, [], [digest 1]⟩ (digest 2)
    ∃ chain, Chain.seeded startup = .ok chain ∧
      (chain.hashOf 0).isSome ∧ chain.oldestRetained = .error .subtraction := by
  intro digest startup
  exact ⟨Chain.start startup.checkpoint startup.anchor, rfl, by decide, by decide⟩

end
end ProvenBlocks
