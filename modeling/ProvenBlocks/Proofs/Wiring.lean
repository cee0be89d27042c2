import Mathlib.Data.List.Nodup
import Mathlib.Logic.Relation
import ProvenBlocks.Depot
import ProvenBlocks.Proofs.Session
import ProvenBlocks.Proofs.Subscriptions

/-!
The stream with its signer, its bus and its listener. A requested signature is a task that
publishes once, at any time, and the listener applies what waits for it one signature at a time.
Whatever the order of these steps, no closed block is left without a signature to come, and none is
proven twice.
-/

namespace ProvenBlocks

/-! ### What waits on the bus -/

namespace Bus

/-- What waits for a subscription, if there is one. -/
def waiting (bus : Bus) (id : Nat) : Option (List Signature) :=
  (bus.find? id).map Subscription.waiting

theorem waiting_subscribe (capacity : UInt64) :
    (empty capacity).subscribe.2.waiting (empty capacity).subscribe.1 = some [] := rfl

theorem waiting_publish (bus : Bus) (signature : Signature) (id : Nat) :
    (bus.publish signature).2.waiting id =
      (bus.waiting id).map fun waiting => waiting ++ [signature] := by
  rw [waiting, find_publish, waiting, Option.map_map, Option.map_map]
  rfl

theorem waiting_receive {bus after : Bus} {id : Nat} {signature : Signature}
    (received : bus.receive id = (.event signature, after)) :
    ∃ later, bus.waiting id = some (signature :: later) ∧ after.waiting id = some later := by
  rcases found : bus.find? id with _ | subscription
  · simp [receive, found] at received
  rcases queued : subscription.waiting with _ | ⟨first, later⟩
  · rw [bus.receive_idle found queued, idleAnswer] at received
    split at received <;> cases received
  rw [bus.receive_first found queued] at received
  cases received
  refine ⟨later, ?_, ?_⟩
  · rw [waiting, found, Option.map_some, queued]
  · rw [waiting, find_taking, found, Option.map_some, Option.map_some, takeFirst,
      if_pos (bus.find_named found)]

end Bus

/-! ### What a history has drained -/

namespace Event

/-- The blocks that an event took from the run. -/
def drained : Event → List (UnprovenBlock WriterId)
  | .signed _ resolved _ => resolved.map ResolvedBlock.block
  | .roundStarted _ _ | .itemWritten _ _ | .roundEnded _ _ => []

def message? : Event → Option Digest
  | .signed signature _ _ => some signature.message
  | .roundStarted _ _ | .itemWritten _ _ | .roundEnded _ _ => none

end Event

/-- Every block that signatures have taken from the run, in order. -/
def drained (history : List Event) : List (UnprovenBlock WriterId) :=
  history.flatMap Event.drained

/-- The hashes of all signatures that were applied, in order. -/
def consumed (history : List Event) : List Digest := history.filterMap Event.message?

section

variable {history more : List Event}

@[simp] theorem drained_append : drained (history ++ more) = drained history ++ drained more :=
  List.flatMap_append

@[simp] theorem consumed_append :
    consumed (history ++ more) = consumed history ++ consumed more :=
  List.filterMap_append

theorem drained_unsigned (unsigned : ∀ event ∈ more, event.message? = none) :
    drained more = [] := by
  apply List.flatMap_eq_nil_iff.mpr
  intro event member
  have message := unsigned event member
  cases event with
  | signed signature resolved answer => cases message
  | roundStarted round answer => rfl
  | itemWritten item answer => rfl
  | roundEnded round answer => rfl

theorem consumed_unsigned (unsigned : ∀ event ∈ more, event.message? = none) :
    consumed more = [] :=
  List.filterMap_eq_nil_iff.mpr unsigned

theorem Event.IsQuiet.unsigned {event : Event} (quiet : event.IsQuiet) :
    event.message? = none := by
  cases event with
  | signed signature resolved answer => cases quiet
  | roundStarted round answer => rfl
  | itemWritten item answer => rfl
  | roundEnded round answer => rfl

end

/-- Number and hash of a block. -/
def UnprovenBlock.tag {ω : Type} (block : UnprovenBlock ω) : UInt64 × Digest :=
  (block.number, block.hash)

def ClosedBlock.tag (block : ClosedBlock) : UInt64 × Digest := (block.number, block.hash)

/-- Numbers and hashes of the closed blocks, in the order of closing. -/
def Production.tags (production : Production) : List (UInt64 × Digest) :=
  production.closed.map fun entry => entry.1.tag

def Production.hashes (production : Production) : List Digest := production.tags.map Prod.snd

theorem Production.numbers_of_tags (production : Production) :
    production.tags.map Prod.fst = production.numbers := by
  rw [Production.tags, List.map_map]
  rfl

section

variable {σ : Type} {platform : Platform σ} {assembler next : Assembler} {world after : World σ}
  {events : List Event} {history : List Event}

/-- How a step turns over blocks: none, one that was closed, or those that a signature took. -/
inductive Turnover (world : World σ) : List Event → World σ → Prop
  | none (events : List Event) (after : World σ)
      (unsigned : ∀ event ∈ events, event.message? = none)
      (same : ∀ production : Production,
        (events.foldl Production.observe production).tags = production.tags)
      (unproven : after.unproven = world.unproven) (requests : after.requests = world.requests) :
      Turnover world events after
  | closed (round : Round) (closed : ClosedBlock) (block : UnprovenBlock WriterId)
      (after : World σ) (tag : block.tag = closed.tag)
      (unproven : after.unproven.blocks = world.unproven.blocks ++ [block])
      (requests : after.requests = world.requests ++ [block.hash]) :
      Turnover world [.roundEnded round (.ok (some closed))] after
  | signed (signature : Signature) (answer : Except StreamError (List FinalizedBlock))
      (after : World σ)
      (unproven : after.unproven = (world.unproven.resolve signature.message).2)
      (requests : after.requests = world.requests) :
      Turnover world [.signed signature (world.unproven.resolve signature.message).1 answer] after

theorem turnover_of_moved (moved : Moved platform assembler world events next after) :
    Turnover world events after := by
  have unsigned : ∀ {event : Event}, event.IsQuiet →
      ∀ other ∈ [event], other.message? = Option.none := by
    intro event quiet other member
    rw [List.mem_singleton.mp member]
    exact quiet.unsigned
  have unseen : ∀ {event : Event}, event.IsQuiet → ∀ production : Production,
      ([event].foldl Production.observe production).tags = production.tags := by
    intro event quiet production
    rw [Production.observe_one_quiet quiet]
  cases moved with
  | quiet events quiet =>
      apply Turnover.none _ _ (fun event member => (quiet event member).unsigned)
      · intro production
        rw [Production.observe_quiet quiet]
      · rfl
      · rfl
  | opened round number previousHash writer created opened written phase prior next create start
      write => exact .none _ _ (by simp [Event.message?]) (fun _ => rfl) rfl rfl
  | abandoned round number previousHash fault state event quiet phase prior next left =>
      exact .none _ _ (unsigned quiet) (unseen quiet) rfl rfl
  | written block item state phase unmanaged call =>
      exact .none _ _ (by simp [Event.message?]) (fun _ => rfl) rfl rfl
  | notWritten block item fault state event quiet phase call kind =>
      exact .none _ _ (unsigned quiet) (unseen quiet) rfl rfl
  | counted round block counted phase added early =>
      exact .none _ _ (by simp [Event.message?]) (fun _ => rfl) rfl rfl
  | notSaved round block counted error written saved event quiet phase added due write save =>
      exact .none _ _ (unsigned quiet) (unseen quiet) rfl rfl
  | closed round block counted written saved phase added due write save =>
      exact .closed round (counted.closed world.view round) (counted.unproven world.view) _ rfl rfl
        rfl
  | signed signature answer after applied =>
      cases applied <;> exact .signed signature _ _ rfl rfl

/-- A signature is asked for each block that is closed, and for nothing else. -/
theorem requests_of_turnover (history : List Event) (turnover : Turnover world events after) :
    ∃ hashes, after.requests = world.requests ++ hashes ∧
      (Production.ofHistory (history ++ events)).hashes =
        (Production.ofHistory history).hashes ++ hashes := by
  rw [Production.of_history_append]
  cases turnover with
  | none events after unsigned same unproven requests =>
      refine ⟨[], by rw [requests, List.append_nil], ?_⟩
      rw [Production.hashes, same, Production.hashes, List.append_nil]
  | closed round closed block after tag unproven requests =>
      refine ⟨[block.hash], requests, ?_⟩
      have hash : closed.hash = block.hash := (congrArg Prod.snd tag).symm
      simp [Production.hashes, Production.tags, Production.observe, ClosedBlock.tag, hash]
  | signed signature answer after unproven requests =>
      exact ⟨[], by rw [requests, List.append_nil], (List.append_nil _).symm⟩

/-- What was drained and what is unproven make up what was closed. -/
theorem ledger_of_turnover
    (ledger : (drained history ++ world.unproven.blocks).map UnprovenBlock.tag =
      (Production.ofHistory history).tags) (turnover : Turnover world events after) :
    (drained (history ++ events) ++ after.unproven.blocks).map UnprovenBlock.tag =
      (Production.ofHistory (history ++ events)).tags := by
  rw [Production.of_history_append, drained_append]
  cases turnover with
  | none events after unsigned same unproven requests =>
      rw [drained_unsigned unsigned, List.append_nil, unproven, same]
      exact ledger
  | closed round closed block after tag unproven requests =>
      have observed : ((Production.ofHistory history).observe
          (.roundEnded round (.ok (some closed)))).tags =
            (Production.ofHistory history).tags ++ [block.tag] := by
        rw [tag]
        simp [Production.tags, Production.observe]
      have undrained : drained [.roundEnded round (.ok (some closed))] = [] := rfl
      rw [List.foldl_cons, List.foldl_nil, observed, ← ledger, undrained, List.append_nil, unproven,
        ← List.append_assoc, List.map_append, List.map_singleton]
  | signed signature answer after unproven requests =>
      have taken : drained
          [.signed signature (world.unproven.resolve signature.message).1 answer] =
            (world.unproven.resolve signature.message).1.map ResolvedBlock.block := by
        simp [drained, Event.drained]
      rw [taken, unproven, List.append_assoc, UnprovenRun.resolved_blocks]
      exact ledger

end

/-! ### The wired stream -/

/-- A session with its signing tasks that have not published yet, and with its listener. -/
structure Wired (σ : Type) where
  session : Session σ
  tasks : List Digest
  bus : Bus
  listener : Nat

namespace Wired

variable {σ : Type}

/-- The listener subscribes before anything is produced. -/
def fresh (assembler : Assembler) (view : View) (platform : σ) : Wired σ :=
  let (listener, bus) := (Bus.empty assembler.settings.signatureCapacity).subscribe
  ⟨.fresh assembler view platform, [], bus, listener⟩

/-- What waits for the listener. -/
def queue (wired : Wired σ) : List Signature := (wired.bus.waiting wired.listener).getD []

/-- Every requested signature becomes a task of the signer. -/
def spawn (wired : Wired σ) (session : Session σ) : Wired σ :=
  { wired with
    session := { session with world := { session.world with requests := [] } }
    tasks := wired.tasks ++ session.world.requests }

inductive Step (platform : Platform σ) : Wired σ → Wired σ → Prop
  | operate (wired : Wired σ) (operation : Operation)
      (unsigned : ∀ signature, operation ≠ .sign signature) :
      Step platform wired (wired.spawn (wired.session.step platform operation))
  | publish (wired : Wired σ) (before : List Digest) (task : Digest) (after : List Digest)
      (tasks : wired.tasks = before ++ task :: after) :
      Step platform wired { wired with
        tasks := before ++ after
        bus := (wired.bus.publish (.standIn task)).2 }
  | listen (wired : Wired σ) (signature : Signature) (bus : Bus)
      (received : wired.bus.receive wired.listener = (.event signature, bus)) :
      Step platform wired { wired with
        bus := bus
        session := wired.session.step platform (.sign signature) }

/-- Steps in any order. -/
def Reaches (platform : Platform σ) : Wired σ → Wired σ → Prop :=
  Relation.ReflTransGen (Step platform)

end Wired

/-! ### Operations ask, signatures answer -/

namespace Session

variable {σ : Type}

/-- Operations of consensus leave no signature in the history. -/
theorem unsigned_of_step (platform : Platform σ) (session : Session σ) {operation : Operation}
    (unsigned : ∀ signature, operation ≠ .sign signature) :
    ∃ events, (session.step platform operation).history = session.history ++ events ∧
      ∀ event ∈ events, event.message? = none := by
  have assembled : ∀ {α : Type} (work : Script (Except StreamError α × Assembler))
      (event : Except StreamError α → Event), (∀ answer, (event answer).message? = none) →
      ∃ events, (session.assemble platform work event).history = session.history ++ events ∧
        ∀ event ∈ events, event.message? = none := by
    intro α work event silent
    unfold assemble
    split
    · exact ⟨[], by simp, by simp⟩
    · split
      · exact ⟨_, rfl, by simpa using silent _⟩
      · exact ⟨[], by simp, by simp⟩
  cases operation with
  | startRound round => exact assembled _ _ fun answer => rfl
  | writeItem item => exact assembled _ _ fun answer => rfl
  | endRound round => exact assembled _ _ fun answer => rfl
  | sign signature => exact absurd rfl (unsigned signature)

end Session

/-! ### Overtaken signatures -/

/-- The signature of a later block has drained the block with this number and hash. -/
def Overtaken (history : List Event) (number : UInt64) (hash : Digest) : Prop :=
  ∃ signature resolved answer, Event.signed signature resolved answer ∈ history ∧
    ∃ block ∈ resolved, ∃ last, resolved.getLast? = some last ∧
      block.block.tag = (number, hash) ∧ last.block.hash = signature.message ∧
      number < last.block.number

/-- For every signature that was ignored a block with its hash had been overtaken. -/
def Excused (history : List Event) : Prop :=
  ∀ before signature answer after, history = before ++ .signed signature [] answer :: after →
    ∃ number, Overtaken before number signature.message

theorem Excused.append_one {history : List Event} (excused : Excused history) {event : Event}
    (overtaken : ∀ signature answer, event = .signed signature [] answer →
      ∃ number, Overtaken history number signature.message) : Excused (history ++ [event]) := by
  intro before signature answer after split
  rcases split_last split with ⟨rfl, rfl, _⟩ | ⟨earlier, earlier_split, _⟩
  · exact overtaken signature answer rfl
  · exact excused before signature answer earlier earlier_split

theorem Excused.append_unsigned {history events : List Event} (excused : Excused history)
    (unsigned : ∀ event ∈ events, event.message? = none) : Excused (history ++ events) := by
  induction events generalizing history with
  | nil =>
      rw [List.append_nil]
      exact excused
  | cons event later inductive_hypothesis =>
      have head := unsigned event (by simp)
      have appended : Excused (history ++ [event]) := by
        apply excused.append_one
        intro signature answer same
        rw [same] at head
        cases head
      rw [← List.singleton_append, ← List.append_assoc]
      exact inductive_hypothesis appended fun other member => unsigned other (by simp [member])

/-- What a signature drains ends with a block that it covers. -/
def Event.EndsAtSigned : Event → Prop
  | .signed signature resolved _ =>
      ∀ last, resolved.getLast? = some last → last.block.hash = signature.message
  | .roundStarted _ _ | .itemWritten _ _ | .roundEnded _ _ => True

/-- Hashes that were drained more often than signed: some of them came before the signed block. -/
theorem drained_before_signed {history : List Event} {hash : Digest}
    (ended : ∀ event ∈ history, event.EndsAtSigned)
    (more : (consumed history).count hash < ((drained history).map UnprovenBlock.hash).count hash) :
    ∃ signature resolved answer, Event.signed signature resolved answer ∈ history ∧
      ∃ block ∈ resolved.dropLast, block.block.hash = hash := by
  induction history with
  | nil => cases more
  | cons event later inductive_hypothesis =>
      have recurse : (consumed later).count hash <
          ((drained later).map UnprovenBlock.hash).count hash →
          ∃ signature resolved answer, Event.signed signature resolved answer ∈ event :: later ∧
            ∃ block ∈ resolved.dropLast, block.block.hash = hash := by
        intro fewer
        obtain ⟨signature, resolved, answer, member, rest⟩ :=
          inductive_hypothesis (fun other member => ended other (by simp [member])) fewer
        exact ⟨signature, resolved, answer, by simp [member], rest⟩
      cases event with
      | roundStarted round answer => exact recurse more
      | itemWritten item answer => exact recurse more
      | roundEnded round answer => exact recurse more
      | signed signature resolved answer =>
          by_cases before : ∃ block ∈ resolved.dropLast, block.block.hash = hash
          · exact ⟨signature, resolved, answer, by simp, before⟩
          apply recurse
          have split : consumed (.signed signature resolved answer :: later) =
              signature.message :: consumed later := rfl
          have taken : drained (.signed signature resolved answer :: later) =
              resolved.map ResolvedBlock.block ++ drained later := rfl
          rw [split, taken, List.map_append, List.count_append, List.map_map] at more
          rcases List.eq_nil_or_concat' resolved with rfl | ⟨front, last, rfl⟩
          · simp only [List.map_nil, List.count_nil, Nat.zero_add] at more
            exact Nat.lt_of_le_of_lt (List.count_le_count_cons) more
          · have covers : last.block.hash = signature.message :=
              ended _ (List.mem_cons_self ..) last (List.getLast?_concat ..)
            rw [List.dropLast_concat] at before
            have absent :
                (front.map (UnprovenBlock.hash ∘ ResolvedBlock.block)).count hash = 0 := by
              apply List.count_eq_zero.mpr
              intro member
              obtain ⟨block, inside, same⟩ := List.mem_map.mp member
              exact before ⟨block, inside, same⟩
            rw [List.map_append, List.count_append, absent, Nat.zero_add, List.map_singleton,
              Function.comp_apply, covers, ← List.count_append, List.singleton_append,
              List.count_cons, List.count_cons] at more
            omega

/-! ### Every order of steps -/

/-- Every closed block is drained or unproven, and has one signature that is applied, waits on the
bus, or is yet to be published. -/
structure Balanced {σ : Type} (wired : Wired σ) : Prop where
  coherent : wired.session.assembler.Coherent wired.session.world
  ascends : Ascends wired.session.production.numbers wired.session.world.view.chain.lastNumber
  handed : wired.session.world.requests = []
  listening : ∃ waiting, wired.bus.waiting wired.listener = some waiting
  ledger : (drained wired.session.history ++ wired.session.world.unproven.blocks).map
    UnprovenBlock.tag = wired.session.production.tags
  requested : (consumed wired.session.history ++
    (wired.queue.map Signature.message ++ wired.tasks)).Perm wired.session.production.hashes
  answered : ∀ hash, (consumed wired.session.history).count hash ≤
    ((drained wired.session.history).map UnprovenBlock.hash).count hash
  ended : ∀ event ∈ wired.session.history, event.EndsAtSigned
  excused : Excused wired.session.history

section

variable {σ : Type} {platform : Platform σ} {wired : Wired σ}

namespace Balanced

theorem hashes (balanced : Balanced wired) :
    (drained wired.session.history).map UnprovenBlock.hash ++
        wired.session.world.unproven.blocks.map UnprovenBlock.hash =
      wired.session.production.hashes := by
  rw [Production.hashes, ← balanced.ledger, ← List.map_append, List.map_map]
  rfl

theorem numbers (balanced : Balanced wired) :
    (drained wired.session.history).map UnprovenBlock.number ++
        wired.session.world.unproven.blocks.map UnprovenBlock.number =
      wired.session.production.numbers := by
  rw [← Production.numbers_of_tags, ← balanced.ledger, ← List.map_append, List.map_map]
  rfl

/-- For each hash: what was drained and is unproven, and the signatures in all their places. -/
theorem counts (balanced : Balanced wired) (hash : Digest) :
    ((drained wired.session.history).map UnprovenBlock.hash).count hash +
        (wired.session.world.unproven.blocks.map UnprovenBlock.hash).count hash =
      (consumed wired.session.history).count hash +
        ((wired.queue.map Signature.message).count hash + wired.tasks.count hash) := by
  rw [← List.count_append, balanced.hashes, ← balanced.requested.count_eq, List.count_append,
    List.count_append]

/-- Drained blocks before the last one of a signature have lower numbers than that one. -/
theorem lower_number (balanced : Balanced wired) {signature : Signature}
    {resolved : List (ResolvedBlock WriterId)} {answer : Except StreamError (List FinalizedBlock)}
    (member : Event.signed signature resolved answer ∈ wired.session.history)
    {block last : ResolvedBlock WriterId} (inside : block ∈ resolved.dropLast)
    (newest : resolved.getLast? = some last) : block.block.number < last.block.number := by
  obtain ⟨before, after, split⟩ := List.append_of_mem member
  have ascending := balanced.ascends.ascending
  rw [← balanced.numbers, split, ← List.singleton_append, drained_append, drained_append,
    List.map_append, List.map_append] at ascending
  have taken : drained [.signed signature resolved answer] =
      resolved.map ResolvedBlock.block := by simp [drained, Event.drained]
  have ordered := (List.pairwise_append.mp (List.pairwise_append.mp
    (List.pairwise_append.mp ascending).1).2.1).1
  rw [taken, List.map_map, ← List.dropLast_append_getLast? last newest, List.map_append] at ordered
  exact (List.pairwise_append.mp ordered).2.2 _ (List.mem_map_of_mem inside) _ (by simp)

/-- If a signature finds no block, a block with its hash was drained by a later one's. -/
theorem overtaken (balanced : Balanced wired) {signature : Signature} {later : List Signature}
    (waiting : wired.queue = signature :: later)
    (nothing : (wired.session.world.unproven.resolve signature.message).1 = []) :
    ∃ number, Overtaken wired.session.history number signature.message := by
  have absent : (wired.session.world.unproven.blocks.map UnprovenBlock.hash).count
      signature.message = 0 := by
    apply List.count_eq_zero.mpr
    intro member
    obtain ⟨block, inside, same⟩ := List.mem_map.mp member
    exact UnprovenRun.absent_of_resolve_nil nothing block inside same
  have counts := balanced.counts signature.message
  rw [absent, waiting, List.map_cons, List.count_cons_self] at counts
  obtain ⟨earlier, resolved, answer, member, block, inside, same⟩ :=
    drained_before_signed balanced.ended
      (show (consumed wired.session.history).count signature.message < _ by omega)
  rcases List.eq_nil_or_concat' resolved with rfl | ⟨front, last, rfl⟩
  · cases inside
  · have newest : (front ++ [last]).getLast? = some last := List.getLast?_concat ..
    refine ⟨block.block.number, earlier, _, answer, member, block, List.dropLast_subset _ inside,
      last, newest, ?_, balanced.ended _ member last newest,
      balanced.lower_number member inside newest⟩
    rw [UnprovenBlock.tag, same]

end Balanced

theorem balanced_of_operate (balanced : Balanced wired) (operation : Operation)
    (unsigned : ∀ signature, operation ≠ .sign signature) :
    Balanced (wired.spawn (wired.session.step platform operation)) := by
  obtain ⟨events, moved, history⟩ := Session.step_moves platform balanced.coherent operation
  obtain ⟨others, same, silent⟩ := Session.unsigned_of_step platform wired.session unsigned
  obtain rfl := List.append_cancel_left (history.symm.trans same)
  have turnover := turnover_of_moved moved
  obtain ⟨hashes, requests, closed⟩ := requests_of_turnover wired.session.history turnover
  rw [balanced.handed, List.nil_append] at requests
  have coherent := Assembler.coherent_of_moved balanced.coherent moved
  have consumed_same : consumed (wired.session.step platform operation).history =
      consumed wired.session.history := by
    rw [same, consumed_append, consumed_unsigned silent, List.append_nil]
  have drained_same : drained (wired.session.step platform operation).history =
      drained wired.session.history := by
    rw [same, drained_append, drained_unsigned silent, List.append_nil]
  constructor
  · exact ⟨coherent.linked, fun block phase =>
      ⟨(coherent.follows block phase).prior, (coherent.follows block phase).next⟩⟩
  · have ascends := ascends_of_moved [] balanced.coherent balanced.ascends moved
    rw [← same] at ascends
    exact ascends
  · rfl
  · exact balanced.listening
  · have ledger := ledger_of_turnover balanced.ledger turnover
    rw [← same] at ledger
    exact ledger
  · have kept := balanced.requested.append_right hashes
    rw [Session.production, ← closed, ← same, List.append_assoc, List.append_assoc] at kept
    show (consumed (wired.session.step platform operation).history ++
      (wired.queue.map Signature.message ++
        (wired.tasks ++ (wired.session.step platform operation).world.requests))).Perm _
    rw [consumed_same, requests]
    exact kept
  · intro hash
    show (consumed (wired.session.step platform operation).history).count hash ≤
      ((drained (wired.session.step platform operation).history).map UnprovenBlock.hash).count hash
    rw [consumed_same, drained_same]
    exact balanced.answered hash
  · intro event member
    simp only [Wired.spawn, same] at member
    rcases List.mem_append.mp member with earlier | new
    · exact balanced.ended event earlier
    · have message := silent event new
      cases event with
      | signed signature resolved answer => cases message
      | roundStarted | itemWritten | roundEnded => trivial
  · simp only [Wired.spawn, same]
    exact balanced.excused.append_unsigned silent

theorem balanced_of_publish (balanced : Balanced wired) {before after : List Digest}
    {task : Digest} (tasks : wired.tasks = before ++ task :: after) :
    Balanced { wired with
      tasks := before ++ after
      bus := (wired.bus.publish (.standIn task)).2 } := by
  obtain ⟨waiting, listening⟩ := balanced.listening
  have published : (wired.bus.publish (.standIn task)).2.waiting wired.listener =
      some (waiting ++ [.standIn task]) := by
    rw [Bus.waiting_publish, listening, Option.map_some]
  refine { balanced with listening := ⟨_, published⟩, requested := ?_ }
  have requested := balanced.requested
  simp only [Wired.queue, listening, Option.getD_some, tasks] at requested
  simp only [Wired.queue, published, Option.getD_some, List.map_append, List.map_singleton]
  have moved : ((waiting.map Signature.message ++ [task]) ++ (before ++ after)).Perm
      (waiting.map Signature.message ++ (before ++ task :: after)) := by
    rw [List.append_assoc, List.singleton_append]
    exact List.Perm.append_left _ List.perm_middle.symm
  exact (moved.append_left _).trans requested

/-- Every signature that is applied has some drained block of its hash. -/
theorem answered_of_listen (balanced : Balanced wired) {signature : Signature}
    {later : List Signature} (waiting : wired.queue = signature :: later)
    (answer : Except StreamError (List FinalizedBlock)) (hash : Digest) :
    (consumed (wired.session.history ++
        [.signed signature (wired.session.world.unproven.resolve signature.message).1
          answer])).count hash ≤
      ((drained (wired.session.history ++
        [.signed signature (wired.session.world.unproven.resolve signature.message).1
          answer])).map UnprovenBlock.hash).count hash := by
  have before := balanced.answered hash
  have counts := balanced.counts hash
  have split : consumed
      [.signed signature (wired.session.world.unproven.resolve signature.message).1 answer] =
        [signature.message] := rfl
  have taken : drained
      [.signed signature (wired.session.world.unproven.resolve signature.message).1 answer] =
        (wired.session.world.unproven.resolve signature.message).1.map ResolvedBlock.block := by
    simp [drained, Event.drained]
  rw [waiting, List.map_cons] at counts
  rw [consumed_append, drained_append, split, taken, List.map_append, List.count_append,
    List.count_append]
  by_cases same : signature.message = hash
  · rw [same, List.count_cons_self] at counts
    rw [same, List.count_singleton_self]
    rcases List.eq_nil_or_concat' (wired.session.world.unproven.resolve signature.message).1 with
      nothing | ⟨front, last, resolved⟩
    · have absent :
          (wired.session.world.unproven.blocks.map UnprovenBlock.hash).count hash = 0 := by
        apply List.count_eq_zero.mpr
        intro member
        obtain ⟨block, inside, found⟩ := List.mem_map.mp member
        exact UnprovenRun.absent_of_resolve_nil nothing block inside (found.trans same.symm)
      omega
    · have newest : (wired.session.world.unproven.resolve signature.message).1.getLast? =
          some last := by rw [resolved, List.getLast?_concat]
      have covers : last.block.hash = hash := (UnprovenRun.resolve_last newest).trans same
      rw [← same, resolved, List.map_append, List.map_append, List.count_append, same,
        List.map_singleton, List.map_singleton, covers, List.count_singleton_self]
      omega
  · have other : [signature.message].count hash = 0 :=
      List.count_eq_zero.mpr (by simpa using Ne.symm same)
    omega

theorem balanced_of_listen (balanced : Balanced wired) {signature : Signature} {bus : Bus}
    (received : wired.bus.receive wired.listener = (.event signature, bus)) :
    Balanced { wired with
      bus := bus
      session := wired.session.step platform (.sign signature) } := by
  obtain ⟨later, waited, left⟩ := Bus.waiting_receive received
  have waiting : wired.queue = signature :: later := by
    rw [Wired.queue, waited, Option.getD_some]
  obtain ⟨answer, after, applied, stepped⟩ :=
    wired.session.signed_of_step platform signature
  have moved : Moved platform wired.session.assembler wired.session.world
      [.signed signature (wired.session.world.unproven.resolve signature.message).1 answer]
      wired.session.assembler after := .signed signature answer after applied
  have turnover := turnover_of_moved moved
  have consumed_now : consumed (wired.session.history ++
      [.signed signature (wired.session.world.unproven.resolve signature.message).1 answer]) =
        consumed wired.session.history ++ [signature.message] := consumed_append
  rw [stepped]
  constructor
  · exact Assembler.coherent_of_moved balanced.coherent moved
  · exact ascends_of_moved [] balanced.coherent balanced.ascends moved
  · have requests : after.requests = wired.session.world.requests := by cases applied <;> rfl
    exact requests.trans balanced.handed
  · exact ⟨later, left⟩
  · exact ledger_of_turnover balanced.ledger turnover
  · have requested := balanced.requested
    rw [waiting, List.map_cons, List.cons_append] at requested
    simp only [Wired.queue, left, Option.getD_some, consumed_now, List.append_assoc,
      List.singleton_append, Session.production, Production.of_history_append]
    exact requested
  · exact answered_of_listen balanced waiting answer
  · intro event member
    rcases List.mem_append.mp member with earlier | new
    · exact balanced.ended event earlier
    · rw [List.mem_singleton.mp new]
      exact fun last newest => UnprovenRun.resolve_last newest
  · apply balanced.excused.append_one
    intro other reply same
    obtain ⟨rfl, nothing, _⟩ := Event.signed.inj same
    exact balanced.overtaken waiting nothing

theorem balanced_fresh {assembler : Assembler} (idle : assembler.phase = .idle) (view : View)
    (state : σ) : Balanced (Wired.fresh assembler view state) where
  coherent := Assembler.coherent_fresh idle view state
  ascends := ⟨List.Pairwise.nil, (fun number member => by cases member)⟩
  handed := rfl
  listening := ⟨[], Bus.waiting_subscribe _⟩
  ledger := rfl
  requested := List.Perm.refl _
  answered := fun hash => Nat.le_refl _
  ended := fun event member => by cases member
  excused := by
    intro before signature answer after split
    cases before <;> cases split

theorem balanced_of_step {after : Wired σ} (balanced : Balanced wired)
    (step : wired.Step platform after) : Balanced after := by
  cases step with
  | operate operation unsigned => exact balanced_of_operate balanced operation unsigned
  | publish before task after tasks => exact balanced_of_publish balanced tasks
  | listen signature bus received => exact balanced_of_listen balanced received

/-- The balance holds after any steps in any order. -/
theorem balanced_of_reaches {after : Wired σ} (balanced : Balanced wired)
    (reaches : wired.Reaches platform after) : Balanced after := by
  induction reaches with
  | refl => exact balanced
  | tail earlier step inductive_hypothesis => exact balanced_of_step inductive_hypothesis step

/-- The hash of an unproven block is held by a task or waits for the listener. -/
theorem Balanced.signature_to_come (balanced : Balanced wired) {block : UnprovenBlock WriterId}
    (unproven : block ∈ wired.session.world.unproven.blocks) :
    block.hash ∈ wired.tasks ∨ ∃ signature ∈ wired.queue, signature.message = block.hash := by
  have counts := balanced.counts block.hash
  have answered := balanced.answered block.hash
  have here : 0 < (wired.session.world.unproven.blocks.map UnprovenBlock.hash).count block.hash :=
    List.count_pos_iff.mpr (List.mem_map_of_mem unproven)
  by_cases held : block.hash ∈ wired.tasks
  · exact .inl held
  · rw [List.count_eq_zero.mpr held] at counts
    have waits : 0 < (wired.queue.map Signature.message).count block.hash := by omega
    obtain ⟨signature, queued, same⟩ := List.mem_map.mp (List.count_pos_iff.mp waits)
    exact .inr ⟨signature, queued, same⟩

theorem Balanced.drained_at_most_once (balanced : Balanced wired) (number : UInt64) :
    ((drained wired.session.history).map UnprovenBlock.number).count number ≤ 1 := by
  have distinct : wired.session.production.numbers.Nodup :=
    balanced.ascends.ascending.imp UInt64.ne_of_lt
  rw [← balanced.numbers] at distinct
  exact List.nodup_iff_count_le_one.mp (List.nodup_append.mp distinct).1 number

/-- Without tasks and waiting signatures nothing is unproven. -/
theorem Balanced.settled (balanced : Balanced wired) (tasks : wired.tasks = [])
    (queue : wired.queue = []) : wired.session.world.unproven.blocks = [] := by
  apply List.eq_nil_iff_forall_not_mem.mpr
  intro block unproven
  rcases balanced.signature_to_come unproven with held | ⟨signature, queued, _⟩
  · rw [tasks] at held
    cases held
  · rw [queue] at queued
    cases queued

/-- A hash that only one closed block has names the block that was overtaken. -/
theorem Balanced.overtaken_closed (balanced : Balanced wired)
    (distinct : wired.session.production.hashes.Nodup) {before after : List Event}
    {signature : Signature} {answer : Except StreamError (List FinalizedBlock)}
    (split : wired.session.history = before ++ .signed signature [] answer :: after)
    {number : UInt64} (closed : (number, signature.message) ∈ wired.session.production.tags) :
    Overtaken before number signature.message := by
  obtain ⟨found, overtaken⟩ := balanced.excused before signature answer after split
  obtain ⟨earlier, resolved, reply, member, block, inside, last, newest, tag, rest⟩ := overtaken
  have taken : block.block ∈ drained wired.session.history := by
    apply List.mem_flatMap.mpr
    refine ⟨.signed earlier resolved reply, ?_, List.mem_map_of_mem inside⟩
    rw [split]
    exact List.mem_append_left _ member
  have tagged : (found, signature.message) ∈ wired.session.production.tags := by
    rw [← balanced.ledger, ← tag]
    exact List.mem_map_of_mem (List.mem_append_left _ taken)
  have same := List.inj_on_of_nodup_map distinct tagged closed rfl
  cases same
  exact ⟨earlier, resolved, reply, member, block, inside, last, newest, tag, rest⟩

/-- What holds of the wired stream in every order of its steps. -/
structure Wired.NothingLeftBehind (wired : Wired σ) : Prop where
  to_come : ∀ block ∈ wired.session.world.unproven.blocks,
    block.hash ∈ wired.tasks ∨ ∃ signature ∈ wired.queue, signature.message = block.hash
  closed : (drained wired.session.history ++ wired.session.world.unproven.blocks).map
    UnprovenBlock.tag = wired.session.production.tags
  once : ∀ number, ((drained wired.session.history).map UnprovenBlock.number).count number ≤ 1
  settled : wired.tasks = [] → wired.queue = [] → wired.session.world.unproven.blocks = [] ∧
    ∀ number ∈ wired.session.production.numbers,
      ((drained wired.session.history).map UnprovenBlock.number).count number = 1
  excused : Excused wired.session.history
  overtaken : wired.session.production.hashes.Nodup → ∀ before signature answer after,
    wired.session.history = before ++ .signed signature [] answer :: after →
      ∀ number, (number, signature.message) ∈ wired.session.production.tags →
        Overtaken before number signature.message

theorem nothing_left_behind {settings : StreamSettings} {startup : Startup}
    {assembler : Assembler} {view : View}
    (started : Assembler.start settings startup = .ok (assembler, view)) (state : σ)
    (reaches : (Wired.fresh assembler view state).Reaches platform wired) :
    wired.NothingLeftBehind := by
  have idle := Assembler.start_idle started
  have balanced := balanced_of_reaches (balanced_fresh idle view state) reaches
  constructor
  · exact fun block unproven => balanced.signature_to_come unproven
  · exact balanced.ledger
  · exact balanced.drained_at_most_once
  · intro tasks queue
    have settled := balanced.settled tasks queue
    refine ⟨settled, fun number closed => ?_⟩
    have numbers := balanced.numbers
    rw [settled, List.map_nil, List.append_nil] at numbers
    rw [← numbers] at closed
    exact Nat.le_antisymm (balanced.drained_at_most_once number) (List.count_pos_iff.mpr closed)
  · exact balanced.excused
  · exact fun distinct before signature answer after split number closed =>
      balanced.overtaken_closed distinct split closed

end

/-- The signature of the second block overtakes that of the first one, which is then ignored. -/
theorem two_blocks_left_nothing_behind :
    ∃ wired : Wired Depot,
      (Wired.fresh ⟨.default, .idle, none⟩ ⟨Chain.start .empty (some .genesis), .empty, none⟩
        (Depot.empty .log (.memory none))).Reaches Depot.platform wired ∧
      wired.session.production.numbers = [0, 1] ∧ wired.tasks = [] ∧ wired.queue = [] ∧
      wired.NothingLeftBehind := by
  have started : Assembler.start .default .genesis =
      .ok (⟨.default, .idle, none⟩, ⟨Chain.start .empty (some .genesis), .empty, none⟩) := rfl
  have reached : (Wired.fresh ⟨.default, .idle, none⟩
      ⟨Chain.start .empty (some .genesis), .empty, none⟩
      (Depot.empty .log (.memory none))).Reaches Depot.platform _ :=
    (((Relation.ReflTransGen.refl.tail
      (.operate _ (.startRound ⟨1, ⟨1, 0⟩, false, []⟩) (by simp))).tail
      (.operate _ (.endRound ⟨1, ⟨1, 0⟩, false, []⟩) (by simp))).tail
      (.operate _ (.startRound ⟨2, ⟨2, 0⟩, false, []⟩) (by simp))).tail
      (.operate _ (.endRound ⟨2, ⟨2, 0⟩, false, []⟩) (by simp))
  have reached := reached.tail (.publish _ [Digest.zero.linkAll [.zero, .zero]]
    (Digest.zero.linkAll [.zero, .zero, .zero, .zero]) [] (by decide +kernel))
  have reached := reached.tail
    (.listen _ (.standIn (Digest.zero.linkAll [.zero, .zero, .zero, .zero])) _ rfl)
  have reached := reached.tail (.publish _ [] (Digest.zero.linkAll [.zero, .zero]) [] rfl)
  have reached := reached.tail (.listen _ (.standIn (Digest.zero.linkAll [.zero, .zero])) _ rfl)
  exact ⟨_, reached, by decide +kernel, by decide +kernel, by decide +kernel,
    nothing_left_behind started _ reached⟩

end ProvenBlocks
