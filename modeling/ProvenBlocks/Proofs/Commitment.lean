import ProvenBlocks.Proofs.Encodings
import ProvenBlocks.Proofs.Restoring
import ProvenBlocks.Proofs.Stages

/-!
What a block hash commits to. From the genesis on, a hash is a fold of the roots of all blocks up
to its own, and a root is a fold of the digests of written items. Where no two of the messages that
were hashed have one digest, the hash gives back every transaction and every result.
-/

namespace ProvenBlocks

/-! ### Messages and their digests -/

namespace Digest

theorem eq_of_bytes {first second : Digest} (same : first.bytes = second.bytes) :
    first = second := by
  cases first
  cases second
  simpa using same

/-- The messages that a fold takes the digests of. -/
def linkMessages (start : Digest) : List Digest → List Bytes
  | [] => []
  | step :: later => (start.bytes ++ step.bytes) :: (start.link step).linkMessages later

theorem link_messages_append (start last : Digest) (steps : List Digest) :
    start.linkMessages (steps ++ [last]) =
      start.linkMessages steps ++ [(start.linkAll steps).bytes ++ last.bytes] := by
  induction steps generalizing start with
  | nil => rfl
  | cons step later inductive_hypothesis =>
      simp only [List.cons_append, linkMessages, inductive_hypothesis]
      rfl

theorem link_all_concat (start last : Digest) (steps : List Digest) :
    start.linkAll (steps ++ [last]) = of ((start.linkAll steps).bytes ++ last.bytes) := by
  rw [link_all_append]
  rfl

/-- The digest tells the messages apart, and none of them links two digests to zero. -/
structure TellsApart (messages : List Bytes) : Prop where
  injective : ∀ first ∈ messages, ∀ second ∈ messages, of first = of second → first = second
  nonzero : ∀ message ∈ messages, message.length = 96 → of message ≠ zero

/-- Two messages with one digest, or two digests that link to zero. -/
def Broken (messages : List Bytes) : Prop :=
  (∃ first ∈ messages, ∃ second ∈ messages, first ≠ second ∧ of first = of second) ∨
    ∃ message ∈ messages, message.length = 96 ∧ of message = zero

theorem tells_apart_or_broken (messages : List Bytes) : TellsApart messages ∨ Broken messages := by
  by_cases broken : Broken messages
  · exact .inr broken
  apply Or.inl
  constructor
  · intro first inFirst second inSecond same
    by_contra different
    exact broken (.inl ⟨first, inFirst, second, inSecond, different, same⟩)
  · intro message member length isZero
    exact broken (.inr ⟨message, member, length, isZero⟩)

/-- A fold from zero gives back its steps. The induction takes the last step off both lists; a list
that runs out first would leave a fold that is zero. -/
theorem TellsApart.link_all_injective {messages : List Bytes} (apart : TellsApart messages)
    {first second : List Digest} (firstHashed : zero.linkMessages first ⊆ messages)
    (secondHashed : zero.linkMessages second ⊆ messages)
    (same : zero.linkAll first = zero.linkAll second) : first = second := by
  have never : ∀ (steps : List Digest) (last : Digest),
      zero.linkMessages (steps ++ [last]) ⊆ messages → zero.linkAll (steps ++ [last]) ≠ zero := by
    intro steps last hashed
    rw [link_all_concat]
    apply apart.nonzero
    · exact hashed (by rw [link_messages_append]; exact List.mem_concat_self)
    · rw [List.length_append, size, size]
  induction first using List.reverseRecOn generalizing second with
  | nil =>
      rcases List.eq_nil_or_concat' second with rfl | ⟨earlier, last, rfl⟩
      · rfl
      · exact absurd same.symm (never earlier last secondHashed)
  | append_singleton firstEarlier firstLast inductive_hypothesis =>
      rcases List.eq_nil_or_concat' second with rfl | ⟨earlier, last, rfl⟩
      · exact absurd same (never firstEarlier firstLast firstHashed)
      rw [link_all_concat, link_all_concat] at same
      rw [link_messages_append] at firstHashed secondHashed
      have message := apart.injective _ (firstHashed List.mem_concat_self) _
        (secondHashed List.mem_concat_self) same
      have sizes : (zero.linkAll firstEarlier).bytes.length =
          (zero.linkAll earlier).bytes.length := by rw [size, size]
      obtain ⟨folds, lasts⟩ := List.append_inj message sizes
      have before := inductive_hypothesis
        (List.Subset.trans (List.subset_append_left _ _) firstHashed)
        (List.Subset.trans (List.subset_append_left _ _) secondHashed)
        (eq_of_bytes folds)
      rw [before, eq_of_bytes lasts]

end Digest

/-! ### Roots and hashes -/

/-- The items that feed a root, in order. -/
def feeding (root : Root) (items : List Item) : List Item :=
  items.filter fun item => item.root = some root

def rootMessages (root : Root) (items : List Item) : List Bytes :=
  (feeding root items).map Item.encode ++
    Digest.zero.linkMessages ((feeding root items).map Item.hash)

def rootsOf (items : List Item) : List Digest :=
  Chain.steps (rootOf .input items) (rootOf .output items)

/-- The hash of the last of these blocks, when the first builds on the genesis. -/
def historyHash (blocks : List (List Item)) : Digest := Digest.zero.linkAll (blocks.flatMap rootsOf)

/-- Every message that is hashed on the way to the hash of the last block: the items that feed the
roots, and what the folds of roots and hashes link. -/
def hashedMessages (blocks : List (List Item)) : List Bytes :=
  (blocks.flatMap fun items => rootMessages .input items ++ rootMessages .output items) ++
    Digest.zero.linkMessages (blocks.flatMap rootsOf)

/-- What a block hash commits to: transactions and results, each in order. -/
def committed (items : List Item) : List Item × List Item :=
  (feeding .input items, feeding .output items)

theorem history_hash_append (blocks : List (List Item)) (items : List Item) :
    historyHash (blocks ++ [items]) = (historyHash blocks).linkAll (rootsOf items) := by
  simp only [historyHash, List.flatMap_append, Digest.link_all_append, List.flatMap_singleton]

namespace Digest.TellsApart

variable {messages : List Bytes}

theorem items_injective (apart : TellsApart messages) {first second : List Item}
    (firstFits : ∀ item ∈ first, item.Fits) (secondFits : ∀ item ∈ second, item.Fits)
    (firstHashed : first.map Item.encode ⊆ messages)
    (secondHashed : second.map Item.encode ⊆ messages)
    (same : first.map Item.hash = second.map Item.hash) : first = second := by
  induction first generalizing second with
  | nil => exact (List.map_eq_nil_iff.mp same.symm).symm
  | cons item later inductive_hypothesis =>
      rcases second with _ | ⟨other, others⟩
      · cases same
      simp only [List.map_cons, List.cons.injEq] at same
      simp only [List.map_cons, List.cons_subset] at firstHashed secondHashed
      simp only [List.mem_cons, forall_eq_or_imp] at firstFits secondFits
      have encoded := apart.injective _ firstHashed.1 _ secondHashed.1 same.1
      rw [Codec.item.encode_injective firstFits.1 secondFits.1 encoded,
        inductive_hypothesis firstFits.2 secondFits.2 firstHashed.2 secondHashed.2 same.2]

theorem root_injective (apart : TellsApart messages) {root : Root} {first second : List Item}
    (firstFits : ∀ item ∈ first, item.Fits) (secondFits : ∀ item ∈ second, item.Fits)
    (firstHashed : rootMessages root first ⊆ messages)
    (secondHashed : rootMessages root second ⊆ messages)
    (same : rootOf root first = rootOf root second) : feeding root first = feeding root second := by
  obtain ⟨firstItems, firstLinks⟩ := List.append_subset.mp firstHashed
  obtain ⟨secondItems, secondLinks⟩ := List.append_subset.mp secondHashed
  have hashes := apart.link_all_injective firstLinks secondLinks same
  refine apart.items_injective ?_ ?_ firstItems secondItems hashes
  · exact fun item member => firstFits item (List.mem_of_mem_filter member)
  · exact fun item member => secondFits item (List.mem_of_mem_filter member)

/-- Blocks with the same roots, one after the other, are as many and commit to the same items. -/
theorem roots_injective (apart : TellsApart messages) {first second : List (List Item)}
    (firstFits : ∀ items ∈ first, ∀ item ∈ items, item.Fits)
    (secondFits : ∀ items ∈ second, ∀ item ∈ items, item.Fits)
    (firstHashed : (first.flatMap fun items =>
      rootMessages .input items ++ rootMessages .output items) ⊆ messages)
    (secondHashed : (second.flatMap fun items =>
      rootMessages .input items ++ rootMessages .output items) ⊆ messages)
    (same : first.flatMap rootsOf = second.flatMap rootsOf) :
    first.map committed = second.map committed := by
  induction first generalizing second with
  | nil =>
      rcases second with _ | ⟨other, others⟩
      · rfl
      · simp [rootsOf, Chain.steps] at same
  | cons items later inductive_hypothesis =>
      rcases second with _ | ⟨other, others⟩
      · simp [rootsOf, Chain.steps] at same
      simp only [List.flatMap_cons, rootsOf, Chain.steps, List.cons_append, List.nil_append,
        List.cons.injEq] at same
      simp only [List.flatMap_cons, List.append_subset] at firstHashed secondHashed
      simp only [List.mem_cons, forall_eq_or_imp] at firstFits secondFits
      have input := apart.root_injective firstFits.1 secondFits.1 firstHashed.1.1
        secondHashed.1.1 same.1
      have output := apart.root_injective firstFits.1 secondFits.1 firstHashed.1.2
        secondHashed.1.2 same.2.1
      have rest := inductive_hypothesis firstFits.2 secondFits.2 firstHashed.2 secondHashed.2
        same.2.2
      rw [List.map_cons, List.map_cons, rest, committed, committed, input, output]

theorem history_injective (apart : TellsApart messages) {first second : List (List Item)}
    (firstFits : ∀ items ∈ first, ∀ item ∈ items, item.Fits)
    (secondFits : ∀ items ∈ second, ∀ item ∈ items, item.Fits)
    (firstHashed : hashedMessages first ⊆ messages)
    (secondHashed : hashedMessages second ⊆ messages)
    (same : historyHash first = historyHash second) :
    first.map committed = second.map committed := by
  obtain ⟨firstRoots, firstLinks⟩ := List.append_subset.mp firstHashed
  obtain ⟨secondRoots, secondLinks⟩ := List.append_subset.mp secondHashed
  have roots := apart.link_all_injective firstLinks secondLinks same
  exact apart.roots_injective firstFits secondFits firstRoots secondRoots roots

end Digest.TellsApart

/-! ### Hashes of a session from the genesis -/

namespace Production

/-- The items accepted for the blocks up to a number. -/
def through (production : Production) (number : Nat) : List (List Item) :=
  (production.closed.take (number + 1)).map Prod.snd

end Production

/-- Every closed block is numbered by its place and hashed over all blocks up to it, and the open
block has the roots of what was taken in so far. -/
structure FromGenesis {σ : Type} (assembler : Assembler) (world : World σ)
    (production : Production) : Prop where
  prior : world.view.chain.prior = some (historyHash (production.closed.map Prod.snd))
  height : world.view.chain.height = production.closed.length
  closed : ∀ index entry, production.closed[index]? = some entry →
    entry.1.number.toNat = index ∧ entry.1.hash = historyHash (production.through index)
  assembling : ∀ block, assembler.phase = .assembling block →
    block.input.value = rootOf .input production.taken ∧
      world.view.outputs.running.value = rootOf .output production.taken

section

variable {σ : Type} {platform : Platform σ} {assembler next : Assembler} {world after : World σ}
  {events history : List Event}

theorem Production.through_append {production : Production} {index : Nat}
    (before : index < production.closed.length) (entry : ClosedBlock × List Item) :
    (⟨[], production.closed ++ [entry]⟩ : Production).through index = production.through index := by
  simp only [Production.through]
  rw [List.take_append_of_le_length before]

/-- The block that is closed now comes last and links its roots to the hash before. -/
theorem FromGenesis.close {production : Production} {block : OpenBlock}
    (genesis : FromGenesis assembler world production) (follows : world.Follows block)
    (input : block.input.value = rootOf .input production.taken)
    (output : world.view.outputs.running.value = rootOf .output production.taken) (round : Round)
    (saved : σ) (ended : ∀ block, next.phase ≠ .assembling block) :
    FromGenesis next ((world.setPlatform saved).close block)
      ⟨[], production.closed ++ [(block.closed world.view round, production.taken)]⟩ := by
  have number := Chain.next_number_height follows.next
  rw [genesis.height] at number
  have prior := genesis.prior
  rw [follows.prior, Option.some.injEq] at prior
  have hash : block.hash world.view =
      historyHash (production.closed.map Prod.snd ++ [production.taken]) := by
    rw [history_hash_append, ← prior, rootsOf, ← input, ← output]
    rfl
  constructor
  · simp [hash]
  · simp [Chain.height, number]
  · intro index entry found
    rcases Nat.lt_or_ge index production.closed.length with earlier | late
    · rw [List.getElem?_append_left earlier] at found
      rw [Production.through_append earlier]
      exact genesis.closed index entry found
    · rw [List.getElem?_append_right late, List.getElem?_singleton] at found
      split at found
      · rename_i isLast
        cases found
        have place : index = production.closed.length := by omega
        subst place
        refine ⟨number, ?_⟩
        have whole : (production.closed ++ [(block.closed world.view round, production.taken)]).take
            (production.closed.length + 1) =
              production.closed ++ [(block.closed world.view round, production.taken)] :=
          List.take_of_length_le (by simp)
        rw [Production.through, whole, List.map_append]
        exact hash
      · cases found
  · intro other phase
    exact absurd phase (ended other)

theorem from_genesis_of_moved (coherent : assembler.Coherent world)
    (idle : assembler.phase = .idle → (Production.ofHistory history).taken = [])
    (genesis : FromGenesis assembler world (.ofHistory history))
    (moved : Moved platform assembler world events next after) :
    FromGenesis next after (.ofHistory (history ++ events)) := by
  rw [Production.of_history_append]
  generalize Production.ofHistory history = production at idle genesis ⊢
  cases moved with
  | quiet events quiet =>
      rw [Production.observe_quiet quiet]
      exact genesis
  | opened round number previousHash writer created opened written phase prior next create start
      write =>
      refine ⟨genesis.prior, genesis.height, genesis.closed, ?_⟩
      intro block same
      cases same
      simp only [List.foldl_cons, List.foldl_nil, Production.observe, idle phase]
      exact ⟨rfl, rfl⟩
  | abandoned round number previousHash fault state event quiet phase prior next left =>
      rw [Production.observe_one_quiet quiet]
      exact ⟨genesis.prior, genesis.height, genesis.closed, fun block same => by cases same⟩
  | written block item state phase unmanaged call =>
      obtain ⟨input, output⟩ := genesis.assembling block phase
      refine ⟨by simpa [Production.observe] using genesis.prior,
        by simpa [Production.observe] using genesis.height, genesis.closed, ?_⟩
      intro other same
      cases same
      exact ⟨input_root_add input item, output_root_add output item⟩
  | notWritten block item fault state event quiet phase call kind =>
      rw [Production.observe_one_quiet quiet]
      exact ⟨genesis.prior, genesis.height, genesis.closed, fun block same => by cases same⟩
  | counted round block counted phase added early =>
      refine ⟨genesis.prior, genesis.height, genesis.closed, ?_⟩
      intro other same
      cases same
      obtain ⟨rfl, _⟩ := Assembler.add_round_ok added
      exact genesis.assembling block phase
  | notSaved round block counted error written saved event quiet phase added due write save =>
      rw [Production.observe_one_quiet quiet]
      exact ⟨by simpa using genesis.prior, by simpa using genesis.height, genesis.closed,
        fun block same => by cases same⟩
  | closed round block counted written saved phase added due write save =>
      have follows := Assembler.follows_of_add_round added (coherent.follows block phase)
      obtain ⟨rfl, _⟩ := Assembler.add_round_ok added
      obtain ⟨input, output⟩ := genesis.assembling block phase
      exact genesis.close follows input output round saved
        (Assembler.phase_after_ne_assembling _)
  | signed signature answer after applied =>
      have silent : [Event.signed signature (world.unproven.resolve signature.message).1
          answer].foldl Production.observe production = production := rfl
      rw [silent]
      cases applied <;>
        exact ⟨genesis.prior, genesis.height, genesis.closed, genesis.assembling⟩

end

namespace Session

variable {σ : Type} {platform : Platform σ}

/-- A session that started at the genesis, between two steps. -/
structure Genuine (session : Session σ) : Prop where
  coherent : session.assembler.Coherent session.world
  idle : session.assembler.phase = .idle → session.production.taken = []
  genesis : FromGenesis session.assembler session.world session.production

theorem genuine_fresh {settings : StreamSettings} {assembler : Assembler} {view : View}
    (started : Assembler.start settings .genesis = .ok (assembler, view)) (state : σ) :
    (fresh assembler view state).Genuine := by
  obtain ⟨_, _, rfl, rfl⟩ := Assembler.start_ok started
  have idle : (⟨settings, .idle, Startup.genesis.checkpoint.blockTime⟩ : Assembler).phase = .idle :=
    rfl
  refine ⟨Assembler.coherent_fresh idle _ state, fun _ => rfl, ?_⟩
  exact ⟨rfl, rfl, fun index entry found => (by cases found), fun block phase => by cases phase⟩

theorem Genuine.step {session : Session σ} (genuine : session.Genuine) (operation : Operation) :
    (session.step platform operation).Genuine := by
  obtain ⟨events, moved, history⟩ := step_moves platform genuine.coherent operation
  have idle := taken_of_moved genuine.idle moved
  have genesis := from_genesis_of_moved genuine.coherent genuine.idle genuine.genesis moved
  rw [← history] at idle genesis
  exact ⟨Assembler.coherent_of_moved genuine.coherent moved, idle, genesis⟩

theorem Genuine.run {session : Session σ} (genuine : session.Genuine)
    (operations : List Operation) : (session.run platform operations).Genuine := by
  induction operations generalizing session with
  | nil => exact genuine
  | cons operation later inductive_hypothesis => exact inductive_hypothesis (genuine.step operation)

/-- What operations, in any order and answered in any way, make of a start at the genesis. -/
def StartedAtGenesis (platform : Platform σ) (session : Session σ) : Prop :=
  ∃ settings assembler view state operations,
    Assembler.start settings .genesis = .ok (assembler, view) ∧
      session = (fresh assembler view state).run platform operations

theorem StartedAtGenesis.genuine {session : Session σ}
    (started : session.StartedAtGenesis platform) : session.Genuine := by
  obtain ⟨settings, assembler, view, state, operations, started, rfl⟩ := started
  exact (genuine_fresh started state).run operations

end Session

namespace Production

/-- A closed block stands at the place that its number gives. -/
theorem closed_at {σ : Type} {assembler : Assembler} {world : World σ} {production : Production}
    (genesis : FromGenesis assembler world production) {entry : ClosedBlock × List Item}
    (member : entry ∈ production.closed) :
    production.closed[entry.1.number.toNat]? = some entry ∧
      entry.1.hash = historyHash (production.through entry.1.number.toNat) := by
  obtain ⟨index, found⟩ := List.mem_iff_getElem?.mp member
  obtain ⟨number, hash⟩ := genesis.closed index entry found
  rw [number]
  exact ⟨found, hash⟩

theorem through_at {production : Production} {index number : Nat} (early : index ≤ number) :
    (production.through number)[index]? = production.closed[index]?.map Prod.snd := by
  rw [through, List.getElem?_map, List.getElem?_take_of_lt (by omega)]

/-- Every number up to that of a closed block belongs to a closed block. -/
theorem closed_below {σ : Type} {assembler : Assembler} {world : World σ} {production : Production}
    (genesis : FromGenesis assembler world production) {number : UInt64}
    (below : number.toNat < production.closed.length) :
    ∃ entry ∈ production.closed, entry.1.number = number := by
  refine ⟨production.closed[number.toNat], List.getElem_mem below, ?_⟩
  exact UInt64.toNat_inj.mp (genesis.closed _ _ (List.getElem?_eq_getElem below)).1

theorem through_length {production : Production} {number : Nat}
    (closed : number < production.closed.length) :
    (production.through number).length = number + 1 := by
  rw [through, List.length_map, List.length_take]
  omega

theorem through_fits {production : Production} {number : Nat}
    (fits : ∀ entry ∈ production.closed, ∀ item ∈ entry.2, item.Fits) :
    ∀ items ∈ production.through number, ∀ item ∈ items, item.Fits := by
  intro items member
  obtain ⟨entry, taken, rfl⟩ := List.mem_map.mp member
  exact fits entry (List.mem_of_mem_take taken)

end Production

/-- Two productions have closed every block up to a number, and from the same transactions and
results. -/
structure SameHistory (first second : Production) (number : UInt64) : Prop where
  complete : ∀ other ≤ number,
    (∃ entry ∈ first.closed, entry.1.number = other) ∧
      ∃ entry ∈ second.closed, entry.1.number = other
  same : ∀ firstEntry ∈ first.closed, ∀ secondEntry ∈ second.closed,
    firstEntry.1.number = secondEntry.1.number → firstEntry.1.number ≤ number →
      committed firstEntry.2 = committed secondEntry.2

section

variable {σ τ : Type} {platform : Platform σ} {otherPlatform : Platform τ} {first : Session σ}
  {second : Session τ}

/-- A block hash commits to all transactions and results since the genesis. Blocks of two sessions
that have the same hash have the same number and the same history, or else two of the messages that
were hashed on the way to them have one digest, or two digests link to zero. -/
theorem block_hash_commits_to_history (firstStarted : first.StartedAtGenesis platform)
    (secondStarted : second.StartedAtGenesis otherPlatform)
    (firstFits : ∀ entry ∈ first.production.closed, ∀ item ∈ entry.2, item.Fits)
    (secondFits : ∀ entry ∈ second.production.closed, ∀ item ∈ entry.2, item.Fits)
    {firstBlock secondBlock : ClosedBlock × List Item}
    (firstClosed : firstBlock ∈ first.production.closed)
    (secondClosed : secondBlock ∈ second.production.closed)
    (same : firstBlock.1.hash = secondBlock.1.hash) :
    (firstBlock.1.number = secondBlock.1.number ∧
      SameHistory first.production second.production firstBlock.1.number) ∨
    Digest.Broken (hashedMessages (first.production.through firstBlock.1.number.toNat) ++
      hashedMessages (second.production.through secondBlock.1.number.toNat)) := by
  have firstGenesis := firstStarted.genuine.genesis
  have secondGenesis := secondStarted.genuine.genesis
  obtain ⟨firstAt, firstHash⟩ := Production.closed_at firstGenesis firstClosed
  obtain ⟨secondAt, secondHash⟩ := Production.closed_at secondGenesis secondClosed
  rcases Digest.tells_apart_or_broken
    (hashedMessages (first.production.through firstBlock.1.number.toNat) ++
      hashedMessages (second.production.through secondBlock.1.number.toNat)) with apart | broken
  swap
  · exact .inr broken
  rw [firstHash, secondHash] at same
  have histories := apart.history_injective (Production.through_fits firstFits)
    (Production.through_fits secondFits) (List.subset_append_left _ _)
    (List.subset_append_right _ _) same
  have firstBound := (List.getElem?_eq_some_iff.mp firstAt).1
  have secondBound := (List.getElem?_eq_some_iff.mp secondAt).1
  have lengths := congrArg List.length histories
  rw [List.length_map, List.length_map, Production.through_length firstBound,
    Production.through_length secondBound] at lengths
  have numbers : firstBlock.1.number.toNat = secondBlock.1.number.toNat := by omega
  refine .inl ⟨UInt64.toNat_inj.mp numbers, ?_, ?_⟩
  · intro other bounded
    have below := UInt64.le_iff_toNat_le.mp bounded
    exact ⟨Production.closed_below firstGenesis (by omega),
      Production.closed_below secondGenesis (by omega)⟩
  · intro firstEntry firstMember secondEntry secondMember together bounded
    have below := UInt64.le_iff_toNat_le.mp bounded
    obtain ⟨firstPlace, _⟩ := Production.closed_at firstGenesis firstMember
    obtain ⟨secondPlace, _⟩ := Production.closed_at secondGenesis secondMember
    rw [← together] at secondPlace
    have entries := congrArg (fun history => history[firstEntry.1.number.toNat]?) histories
    simp only [List.getElem?_map] at entries
    rw [Production.through_at below, Production.through_at (by omega), firstPlace,
      secondPlace] at entries
    simpa using entries

end

/-- One block of one transaction and its result, under settings and at a time of its own. -/
def chronicle (version : String) (time : Instant) : Session Depot :=
  let settings := { StreamSettings.default with softwareVersion := version }
  (Session.fresh ⟨settings, .idle, none⟩ ⟨Chain.start .empty (some .genesis), .empty, none⟩
    (Depot.empty .log (.memory none))).run Depot.platform
    [.startRound ⟨1, time, true, []⟩, .writeItem (.transaction ⟨[1, 2]⟩),
      .writeItem (.result ⟨.success, ⟨1, 0⟩, 3⟩), .endRound ⟨1, time, true, []⟩]

theorem chronicles_share_their_history :
    let first := chronicle "1.0" ⟨1, 0⟩
    let second := chronicle "2.0" ⟨7, 5⟩
    first.production.closed ≠ [] ∧ second.production.closed ≠ [] ∧
      ∀ firstBlock ∈ first.production.closed, ∀ secondBlock ∈ second.production.closed,
        firstBlock.1.hash = secondBlock.1.hash ∧
          ((firstBlock.1.number = secondBlock.1.number ∧
            SameHistory first.production second.production firstBlock.1.number) ∨
          Digest.Broken (hashedMessages (first.production.through firstBlock.1.number.toNat) ++
            hashedMessages (second.production.through secondBlock.1.number.toNat))) := by
  intro first second
  have firstStarted : first.StartedAtGenesis Depot.platform :=
    ⟨{ StreamSettings.default with softwareVersion := "1.0" }, _, _, _, _, rfl, rfl⟩
  have secondStarted : second.StartedAtGenesis Depot.platform :=
    ⟨{ StreamSettings.default with softwareVersion := "2.0" }, _, _, _, _, rfl, rfl⟩
  have closed : first.production.closed ≠ [] ∧ second.production.closed ≠ [] ∧
      (∀ firstBlock ∈ first.production.closed, ∀ secondBlock ∈ second.production.closed,
        firstBlock.1.hash = secondBlock.1.hash) ∧
      (∀ entry ∈ first.production.closed, ∀ item ∈ entry.2, item.encode.length < 2 ^ 64) ∧
      ∀ entry ∈ second.production.closed, ∀ item ∈ entry.2, item.encode.length < 2 ^ 64 := by
    decide +kernel
  obtain ⟨firstClosed, secondClosed, same, firstShort, secondShort⟩ := closed
  refine ⟨firstClosed, secondClosed, ?_⟩
  intro firstBlock firstMember secondBlock secondMember
  have hashes := same firstBlock firstMember secondBlock secondMember
  refine ⟨hashes, block_hash_commits_to_history firstStarted secondStarted ?_ ?_ firstMember
    secondMember hashes⟩
  · exact fun entry member item inEntry =>
      Codec.fits_short_item item (firstShort entry member item inEntry)
  · exact fun entry member item inEntry =>
      Codec.fits_short_item item (secondShort entry member item inEntry)

end ProvenBlocks
