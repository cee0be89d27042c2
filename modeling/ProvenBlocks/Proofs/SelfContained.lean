import Mathlib.Data.List.Nodup
import ProvenBlocks.Proofs.Accounts

/-!
Proven blocks speak for themselves. Whatever the order of rounds, items and signatures and
whatever fails, the items in the writer of a block whose proof was written are its header, what was
accepted for it, its boundary and its proof, and they alone yield the hash that the signature
covers.
-/

namespace ProvenBlocks

/-- What holds of a session at every moment. -/
structure Session.Sound {σ : Type} (created : σ → Nat) (session : Session (Journal σ)) : Prop where
  coherent : session.assembler.Coherent session.world
  chained : session.world.unproven.blocks.IsChain UnprovenRun.LeadsTo
  idle : session.assembler.phase = .idle → session.production.taken = []
  ascends : Ascends session.production.numbers session.world.view.chain.lastNumber
  accounted : Accounted created session.assembler session.world session.history

section

variable {σ : Type} {platform : Platform σ} {created : σ → Nat}

theorem sound_of_moved (counts : platform.CountsWriters created)
    {before later : Session (Journal σ)} (sound : before.Sound created)
    (moves : Session.MovesTo platform.journaled before later) : later.Sound created := by
  obtain ⟨events, moved, history⟩ := moves
  have coherent := sound.coherent
  constructor
  · exact Assembler.coherent_of_moved coherent moved
  · exact chained_of_moved coherent sound.chained moved
  · intro phase
    rw [Session.production, history]
    exact taken_of_moved sound.idle moved phase
  · rw [Session.production, history]
    exact ascends_of_moved [] coherent sound.ascends moved
  · rw [history]
    exact accounted_of_moved counts sound.accounted sound.chained sound.idle moved

theorem Session.sound_fresh {assembler : Assembler} (idle : assembler.phase = .idle) (view : View)
    (state : σ) : (Session.fresh assembler view (⟨[], state⟩ : Journal σ)).Sound created where
  coherent := Assembler.coherent_fresh idle view _
  chained := List.isChain_nil
  idle := fun _ => rfl
  ascends := ⟨List.Pairwise.nil, (fun number member => by cases member)⟩
  accounted := by
    have unclosed : ∀ writer, ¬ IsClosed [] writer := by simp [IsClosed]
    refine ⟨(fun block phase => ?_), ⟨(fun block member => by cases member),
      (fun writer closed => absurd closed (unclosed writer))⟩, ?_, rfl⟩
    · cases idle.symm.trans phase
    · have unused : inUse (Session.fresh assembler view (⟨[], state⟩ : Journal σ)).assembler
          (Session.fresh assembler view (⟨[], state⟩ : Journal σ)).world = [] :=
        open_writers_of_idle idle
      rw [unused]
      exact ⟨List.nodup_nil, by simp, by simp, fun writer above call member => by cases member⟩

/-- Soundness holds after any operations, whatever the platform answers. -/
theorem Session.sound_run (counts : platform.CountsWriters created)
    {session : Session (Journal σ)} (sound : session.Sound created)
    (operations : List Operation) :
    (session.run platform.journaled operations).Sound created := by
  induction operations generalizing session with
  | nil => exact sound
  | cons operation later inductive_hypothesis =>
      have moves := Session.step_moves platform.journaled sound.coherent operation
      exact inductive_hypothesis (sound_of_moved counts sound moves)

/-! ### What the items of a block say -/

/-- The block hash as a reader of the items computes it. -/
def recomputedHash (previousHash : Digest) (items : List Item) : Digest :=
  (previousHash.link (rootOf .input items)).link (rootOf .output items)

/-- The items of a block are all that a reader needs: they decode to its header, the accepted
items, the boundary with the saved checkpoint and the proof, and lead to the signed hash. -/
structure ProvenBlock.SpeaksForItself (block : ProvenBlock) (session : Session (Journal σ))
    (writer : WriterId) : Prop where
  opened : openings session.world.platform.calls writer = [block.header.number]
  written : contents session.world.platform.calls writer = block.allItems.map Item.encode
  decoded : (∀ item ∈ block.allItems, item.Fits) →
    (contents session.world.platform.calls writer).map Item.decode = block.allItems.map Except.ok
  closed : ∀ entry ∈ session.production.closed,
    entry.1.number = block.header.number ↔ entry = (block.closed, block.taken)
  reported : (block.closed, block.taken) ∈ session.production.closed
  saved : ∀ checkpoint ∈ saves session.world.platform.calls,
    checkpoint.blockNumber = some block.header.number ↔ checkpoint = block.checkpoint
  kept : block.checkpoint ∈ saves session.world.platform.calls
  unmanaged : ∀ item ∈ block.taken, item.isManaged = false
  boundary : block.changes.changes = [⟨streamInfoName, .streamInfo block.checkpoint⟩]
  hash : block.closed.hash = recomputedHash block.header.previousHash block.allItems
  newest : block.checkpoint.lastHash = some block.closed.hash
  number : block.closed.number = block.header.number ∧ block.proof.block = block.header.number
  previousHash : block.closed.previousHash = block.header.previousHash ∧
    block.proof.previousHash = block.header.previousHash
  roots : block.closed.inputRoot = rootOf .input block.allItems ∧
    block.closed.outputRoot = rootOf .output block.allItems
  count : block.closed.items = UInt64.ofNat (block.allItems.length - 1)
  signature : block.proof.signature = block.signature.content
  signed : block.closed.hash.linkAll block.proof.siblings = block.signature.message
  asked : ∃ resolved answer, Event.signed block.signature resolved answer ∈ session.history

theorem Item.decode_encode {item : Item} (fits : item.Fits) :
    Item.decode item.encode = .ok item := by
  have decoded := Codec.item.decode_encode item [] fits
  rw [List.append_nil] at decoded
  rw [Item.decode, Item.encode, decoded]

theorem root_of_all_items (root : Root) (block : ProvenBlock) :
    rootOf root block.allItems = rootOf root block.items :=
  root_of_append_other (by simp [Item.root]) _

/-- Numbers that ascend tell entries apart. -/
theorem same_number {production : Production} {last : Option UInt64}
    (ascends : Ascends production.numbers last) {first second : ClosedBlock × List Item}
    (one : first ∈ production.closed) (two : second ∈ production.closed)
    (same : first.1.number = second.1.number) : first = second := by
  have distinct : production.numbers.Nodup := ascends.ascending.imp UInt64.ne_of_lt
  exact List.inj_on_of_nodup_map distinct one two same

theorem same_checkpoint {calls : List Call} {production : Production} {last : Option UInt64}
    (ascends : Ascends production.numbers last)
    (saved : (saves calls).map Checkpoint.blockNumber = production.numbers.map some)
    {first second : Checkpoint} (one : first ∈ saves calls) (two : second ∈ saves calls)
    (same : first.blockNumber = second.blockNumber) : first = second := by
  have distinct : production.numbers.Nodup := ascends.ascending.imp UInt64.ne_of_lt
  have apart : ((saves calls).map Checkpoint.blockNumber).Nodup := by
    rw [saved]
    exact distinct.map fun _ _ => Option.some.inj
  exact List.inj_on_of_nodup_map apart one two same

theorem Session.Sound.speaks {session : Session (Journal σ)} (sound : session.Sound created)
    {writer : WriterId} {block : ProvenBlock}
    (proven : Proven session.world.platform.calls session.history writer block) :
    block.SpeaksForItself session writer where
  opened := proven.kept.opened
  written := proven.contents
  decoded := by
    intro fits
    rw [proven.contents, List.map_map]
    exact List.map_congr_left fun item member => Item.decode_encode (fits item member)
  closed := by
    intro entry member
    refine ⟨fun same => same_number sound.ascends member proven.kept.closed ?_, ?_⟩
    · rw [same, proven.agrees.number]
    · rintro rfl
      exact proven.agrees.number
  reported := proven.kept.closed
  saved := by
    intro checkpoint member
    refine ⟨fun same => same_checkpoint sound.ascends sound.accounted.saved member
      proven.kept.saved ?_, ?_⟩
    · rw [same, proven.agrees.saved]
    · rintro rfl
      exact proven.agrees.saved
  kept := proven.kept.saved
  unmanaged := proven.agrees.unmanaged
  boundary := proven.agrees.boundary
  hash := by
    rw [recomputedHash, root_of_all_items, root_of_all_items]
    exact proven.agrees.hash
  newest := proven.agrees.newest
  number := ⟨proven.agrees.number, proven.number⟩
  previousHash := ⟨proven.agrees.previousHash, proven.previousHash⟩
  roots := by
    rw [root_of_all_items, root_of_all_items]
    exact ⟨proven.agrees.inputRoot, proven.agrees.outputRoot⟩
  count := by
    rw [proven.agrees.count, ProvenBlock.allItems, List.length_append]
    rfl
  signature := proven.content
  signed := proven.signed
  asked := proven.asked

/-- Whoever reads all items of a writer that was closed can check the block and its proof. -/
theorem closed_writer_speaks_for_itself (counts : platform.CountsWriters created)
    {settings : StreamSettings} {startup : Startup} {assembler : Assembler} {view : View}
    (started : Assembler.start settings startup = .ok (assembler, view)) (state : σ)
    (operations : List Operation) {writer : WriterId}
    (closed : IsClosed ((Session.fresh assembler view ⟨[], state⟩).run platform.journaled
      operations).world.platform.calls writer) :
    ∃ block : ProvenBlock, block.SpeaksForItself
      ((Session.fresh assembler view ⟨[], state⟩).run platform.journaled operations) writer := by
  have idle := Assembler.start_idle started
  have sound := Session.sound_run counts (Session.sound_fresh idle view state) operations
  obtain ⟨block, proven⟩ := sound.accounted.settled.proven writer closed
  exact ⟨block, sound.speaks proven⟩

end

/-- One block of one transaction, closed by a freeze round and signed at once. -/
def oneBlock : List Operation :=
  [.startRound ⟨1, ⟨1, 0⟩, true, []⟩, .writeItem (.transaction ⟨[1, 2]⟩),
    .endRound ⟨1, ⟨1, 0⟩, true, []⟩,
    .sign (Signature.standIn (recomputedHash .zero [.transaction ⟨[1, 2]⟩]))]

theorem one_block_speaks_for_itself :
    Assembler.start .default .genesis =
        .ok (⟨.default, .idle, none⟩, ⟨Chain.start .empty (some .genesis), .empty, none⟩) ∧
      IsClosed ((Session.fresh ⟨.default, .idle, none⟩
        ⟨Chain.start .empty (some .genesis), .empty, none⟩
        ⟨[], Depot.empty .log (.memory none)⟩).run Depot.platform.journaled
          oneBlock).world.platform.calls 0 ∧
      ∃ block : ProvenBlock, block.SpeaksForItself ((Session.fresh ⟨.default, .idle, none⟩
        ⟨Chain.start .empty (some .genesis), .empty, none⟩
        ⟨[], Depot.empty .log (.memory none)⟩).run Depot.platform.journaled oneBlock) 0 := by
  have started : Assembler.start .default .genesis =
      .ok (⟨.default, .idle, none⟩, ⟨Chain.start .empty (some .genesis), .empty, none⟩) := rfl
  have closed : IsClosed ((Session.fresh ⟨.default, .idle, none⟩
        ⟨Chain.start .empty (some .genesis), .empty, none⟩
        ⟨[], Depot.empty .log (.memory none)⟩).run Depot.platform.journaled
          oneBlock).world.platform.calls 0 := ⟨.ok (), by decide +kernel⟩
  exact ⟨started, closed,
    closed_writer_speaks_for_itself Depot.counts_writers started _ oneBlock closed⟩

end ProvenBlocks
