import ProvenBlocks.Proofs.Journal
import ProvenBlocks.Proofs.Session
import ProvenBlocks.Proofs.Windows

/-!
The stages of a block: open, closed and waiting for its proof, proven. At each stage the journal
tells what the writer of the block has taken in, and calls about other writers change nothing of
it.
-/

namespace ProvenBlocks

/-- The fold of the digests of the items that feed a root. -/
def rootOf (root : Root) (items : List Item) : Digest :=
  Digest.zero.linkAll ((items.filter fun item => item.root = some root).map Item.hash)

@[simp] theorem root_of_nil (root : Root) : rootOf root [] = Digest.zero := rfl

theorem root_of_append_feeding {root : Root} {item : Item} (feeds : item.root = some root)
    (items : List Item) : rootOf root (items ++ [item]) = (rootOf root items).link item.hash := by
  simp [rootOf, feeds, Digest.linkAll]

theorem root_of_append_other {root : Root} {item : Item} (other : item.root ≠ some root)
    (items : List Item) : rootOf root (items ++ [item]) = rootOf root items := by
  simp [rootOf, other]

theorem root_of_cons_other {root : Root} {item : Item} (other : item.root ≠ some root)
    (items : List Item) : rootOf root (item :: items) = rootOf root items := by
  simp [rootOf, other]

/-- The open block feeds its input root with the items that belong to it. -/
theorem input_root_add {block : OpenBlock} {items : List Item}
    (input : block.input.value = rootOf .input items) (item : Item) :
    (block.add item).input.value = rootOf .input (items ++ [item]) := by
  rcases fed : item.root with _ | _ | _
  · rw [root_of_append_other (by simp [fed]), ← input]
    simp [OpenBlock.add, fed]
  · rw [root_of_append_feeding fed, ← input]
    simp [OpenBlock.add, fed, RunningDigest.add]
  · rw [root_of_append_other (by simp [fed]), ← input]
    simp [OpenBlock.add, fed]

/-- So does the view with the output root. -/
theorem output_root_add {view : View} {items : List Item}
    (output : view.outputs.running.value = rootOf .output items) (item : Item) :
    (view.add item).outputs.running.value = rootOf .output (items ++ [item]) := by
  rcases fed : item.root with _ | _ | _
  · rw [root_of_append_other (by simp [fed]), ← output]
    simp [View.add, fed]
  · rw [root_of_append_other (by simp [fed]), ← output]
    simp [View.add, fed]
  · rw [root_of_append_feeding fed, ← output]
    simp [View.add, fed, OutputRoots.add, RunningDigest.add]

/-! ### Closed blocks -/

/-- A closed block: what was written for it, saved for it and told of it. -/
structure SealedBlock where
  header : Header
  taken : List Item
  changes : StateChanges
  checkpoint : Checkpoint
  closed : ClosedBlock

namespace SealedBlock

def items (block : SealedBlock) : List Item :=
  .header block.header :: (block.taken ++ [.stateChanges block.changes])

/-- How the parts of a closed block agree. -/
structure Agrees (block : SealedBlock) : Prop where
  number : block.closed.number = block.header.number
  previousHash : block.closed.previousHash = block.header.previousHash
  unmanaged : ∀ item ∈ block.taken, item.isManaged = false
  boundary : block.changes.changes = [⟨streamInfoName, .streamInfo block.checkpoint⟩]
  saved : block.checkpoint.blockNumber = some block.header.number
  newest : block.checkpoint.lastHash = some block.closed.hash
  inputRoot : block.closed.inputRoot = rootOf .input block.items
  outputRoot : block.closed.outputRoot = rootOf .output block.items
  hash : block.closed.hash =
    (block.header.previousHash.link (rootOf .input block.items)).link (rootOf .output block.items)
  count : block.closed.items = UInt64.ofNat block.items.length

/-- The block is in the journal, under its writer, and among the closed ones. -/
structure Kept (block : SealedBlock) (calls : List Call) (production : Production)
    (writer : WriterId) : Prop where
  opened : openings calls writer = [block.header.number]
  saved : block.checkpoint ∈ saves calls
  closed : (block.closed, block.taken) ∈ production.closed

theorem Kept.extend {block : SealedBlock} {calls more : List Call}
    {production later : Production} {writer : WriterId}
    (kept : block.Kept calls production writer) (elsewhere : openings more writer = [])
    (grown : ∀ entry ∈ production.closed, entry ∈ later.closed) :
    block.Kept (calls ++ more) later writer where
  opened := by rw [openings_append, kept.opened, elsewhere, List.append_nil]
  saved := by
    rw [saves_append]
    exact List.mem_append_left _ kept.saved
  closed := grown _ kept.closed

end SealedBlock

/-! ### Open, unproven and proven blocks -/

/-- The writer of an open block has taken in the header and what was accepted since. -/
structure Assembling (calls : List Call) (production : Production) (view : View)
    (block : OpenBlock) (header : Header) : Prop where
  opened : openings calls block.writer = [block.number]
  contents : contents calls block.writer =
    (Item.header header :: production.taken).map Item.encode
  number : header.number = block.number
  previousHash : header.previousHash = block.previousHash
  items : block.items = production.taken.length + 1
  input : block.input.value = rootOf .input production.taken
  output : view.outputs.running.value = rootOf .output production.taken
  unmanaged : ∀ item ∈ production.taken, item.isManaged = false

theorem Assembling.extend {calls more : List Call} {production : Production} {view : View}
    {block : OpenBlock} {header : Header}
    (assembling : Assembling calls production view block header)
    (untouched : Untouched more block.writer) :
    Assembling (calls ++ more) production view block header :=
  { assembling with
    opened := by
      rw [openings_append, assembling.opened, openings_untouched untouched, List.append_nil]
    contents := by
      rw [contents_append, assembling.contents, contents_untouched untouched, List.append_nil] }

/-- An unproven block is a closed one whose writer has taken in all but the proof. -/
structure Awaits (calls : List Call) (production : Production) (block : UnprovenBlock WriterId)
    (sealedBlock : SealedBlock) : Prop where
  agrees : sealedBlock.Agrees
  kept : sealedBlock.Kept calls production block.writer
  contents : contents calls block.writer = sealedBlock.items.map Item.encode
  number : block.number = sealedBlock.header.number
  previousHash : block.previousHash = sealedBlock.header.previousHash
  hash : block.hash = sealedBlock.closed.hash

/-- A closed block with its proof and the signature that proves it. -/
structure ProvenBlock extends SealedBlock where
  proof : BlockProof
  signature : Signature

def ProvenBlock.allItems (block : ProvenBlock) : List Item := block.items ++ [.proof block.proof]

structure Proven (calls : List Call) (history : List Event) (writer : WriterId)
    (block : ProvenBlock) : Prop where
  agrees : block.Agrees
  kept : block.Kept calls (.ofHistory history) writer
  contents : contents calls writer = block.allItems.map Item.encode
  number : block.proof.block = block.header.number
  previousHash : block.proof.previousHash = block.header.previousHash
  content : block.proof.signature = block.signature.content
  signed : block.closed.hash.linkAll block.proof.siblings = block.signature.message
  asked : ∃ resolved answer, Event.signed block.signature resolved answer ∈ history

/-- Every unproven block awaits its proof, and every closed writer holds a proven block. -/
structure Settled (calls : List Call) (history : List Event)
    (blocks : List (UnprovenBlock WriterId)) : Prop where
  pending : ∀ block ∈ blocks, ∃ sealedBlock, Awaits calls (.ofHistory history) block sealedBlock
  proven : ∀ writer, IsClosed calls writer → ∃ block, Proven calls history writer block

theorem closed_of_observe {production : Production} (events : List Event)
    {entry : ClosedBlock × List Item} (member : entry ∈ production.closed) :
    entry ∈ (events.foldl Production.observe production).closed := by
  induction events generalizing production with
  | nil => exact member
  | cons event later inductive_hypothesis =>
      apply inductive_hypothesis
      unfold Production.observe
      split
      · exact member
      · exact List.mem_append_left _ member
      · exact member

theorem Awaits.extend {calls more : List Call} {history events : List Event}
    {block : UnprovenBlock WriterId} {sealedBlock : SealedBlock}
    (awaits : Awaits calls (.ofHistory history) block sealedBlock)
    (untouched : Untouched more block.writer) :
    Awaits (calls ++ more) (.ofHistory (history ++ events)) block sealedBlock where
  agrees := awaits.agrees
  kept := by
    rw [Production.of_history_append]
    exact awaits.kept.extend (openings_untouched untouched)
      fun entry member => closed_of_observe events member
  contents := by
    rw [contents_append, awaits.contents, contents_untouched untouched, List.append_nil]
  number := awaits.number
  previousHash := awaits.previousHash
  hash := awaits.hash

theorem Proven.extend {calls more : List Call} {history events : List Event} {writer : WriterId}
    {block : ProvenBlock} (proven : Proven calls history writer block)
    (untouched : Untouched more writer) :
    Proven (calls ++ more) (history ++ events) writer block where
  agrees := proven.agrees
  kept := by
    rw [Production.of_history_append]
    exact proven.kept.extend (openings_untouched untouched)
      fun entry member => closed_of_observe events member
  contents := by
    rw [contents_append, proven.contents, contents_untouched untouched, List.append_nil]
  number := proven.number
  previousHash := proven.previousHash
  content := proven.content
  signed := proven.signed
  asked := by
    obtain ⟨resolved, answer, member⟩ := proven.asked
    exact ⟨resolved, answer, List.mem_append_left _ member⟩

/-- Calls that close nothing and leave unproven and proven blocks alone. -/
theorem Settled.extend {calls more : List Call} {history : List Event}
    {blocks : List (UnprovenBlock WriterId)} (settled : Settled calls history blocks)
    (events : List Event) (pending : ∀ block ∈ blocks, Untouched more block.writer)
    (proven : ∀ writer, IsClosed calls writer → Untouched more writer)
    (unclosed : ∀ writer, ¬ IsClosed more writer) :
    Settled (calls ++ more) (history ++ events) blocks where
  pending := by
    intro block member
    obtain ⟨sealedBlock, awaits⟩ := settled.pending block member
    exact ⟨sealedBlock, awaits.extend (pending block member)⟩
  proven := by
    intro writer closed
    rcases is_closed_append.mp closed with earlier | now
    · obtain ⟨block, found⟩ := settled.proven writer earlier
      exact ⟨block, found.extend (proven writer earlier)⟩
    · exact absurd now (unclosed writer)

/-! ### From one stage to the next -/

theorem assembling_of_opened {calls : List Call} {production : Production}
    {view : View} {settings : StreamSettings} {round : Round} {number : UInt64}
    {previousHash : Digest} {writer : WriterId} (nothing : production.taken = [])
    (untouched : Untouched calls writer) :
    Assembling
      (calls ++ ([.create (.ok writer)] ++ [.openBlock writer number (.ok ())]
        ++ [.writeItem writer
          (Assembler.header settings number previousHash round.time).encode (.ok ())]))
      production { view with outputs := view.outputs.reset, openBlock := some number }
      (Assembler.fresh number previousHash round writer)
      ⟨number, round.time, previousHash, settings.softwareVersion, .sha384⟩ where
  opened := by
    simp [openings_untouched untouched]
  contents := by
    simp [contents_untouched untouched, nothing, Assembler.header]
  number := rfl
  previousHash := rfl
  items := by simp [nothing]
  input := by simp [nothing, RunningDigest.empty]
  output := by simp [nothing, OutputRoots.reset, RunningDigest.empty]
  unmanaged := by simp [nothing]

/-- Each item feeds the root that it belongs to and no other. -/
theorem assembling_of_written {calls : List Call} {production : Production} {view : View}
    {block : OpenBlock} {header : Header} {item : Item}
    (assembling : Assembling calls production view block header)
    (unmanaged : item.isManaged = false) :
    Assembling (calls ++ [.writeItem block.writer item.encode (.ok ())])
      (production.observe (.itemWritten item (.ok ()))) (view.add item) (block.add item)
      header where
  opened := by
    simp [assembling.opened]
  contents := by
    simp [assembling.contents, Production.observe]
  number := by rw [OpenBlock.add_number, assembling.number]
  previousHash := by rw [OpenBlock.add_previous_hash, assembling.previousHash]
  items := by simp [Production.observe, assembling.items]
  input := input_root_add assembling.input item
  output := output_root_add assembling.output item
  unmanaged := by
    intro found member
    rcases List.mem_append.mp member with earlier | same
    · exact assembling.unmanaged found earlier
    · rwa [List.mem_singleton.mp same]

/-- The parts of the block that is being closed. -/
def SealedBlock.ofOpen (production : Production) (view : View) (block : OpenBlock) (round : Round)
    (header : Header) : SealedBlock where
  header := header
  taken := production.taken
  changes := ⟨round.time, [⟨streamInfoName, .streamInfo (block.checkpoint view)⟩]⟩
  checkpoint := block.checkpoint view
  closed := block.closed view round

theorem root_of_sealed (root : Root) (block : SealedBlock) :
    rootOf root block.items = rootOf root block.taken := by
  rw [SealedBlock.items, root_of_cons_other (by simp [Item.root]),
    root_of_append_other (by simp [Item.root])]

theorem agrees_of_assembling {calls : List Call} {production : Production} {view : View}
    {block : OpenBlock} {header : Header} (round : Round)
    (assembling : Assembling calls production view block header) :
    (SealedBlock.ofOpen production view block round header).Agrees where
  number := assembling.number.symm
  previousHash := assembling.previousHash.symm
  unmanaged := assembling.unmanaged
  boundary := rfl
  saved := by simp [SealedBlock.ofOpen, assembling.number]
  newest := Window.push_newest _ _
  inputRoot := by
    rw [root_of_sealed]
    exact assembling.input
  outputRoot := by
    rw [root_of_sealed]
    exact assembling.output
  hash := by
    simp only [root_of_sealed]
    simp only [SealedBlock.ofOpen, OpenBlock.closed_hash, OpenBlock.hash, OpenBlock.steps,
      Chain.steps, assembling.input, assembling.output, assembling.previousHash]
    rfl
  count := by simp [SealedBlock.ofOpen, SealedBlock.items, assembling.items]

theorem awaits_of_closed {calls : List Call} {production : Production} {view : View}
    {block : OpenBlock} {header : Header} (round : Round)
    (assembling : Assembling calls production view block header) :
    Awaits
      (calls ++ ([.writeItem block.writer
          (Assembler.boundary round (block.checkpoint view)).encode (.ok ())]
        ++ [.save (block.checkpoint view) (.ok ())]))
      (production.observe (.roundEnded round (.ok (some (block.closed view round)))))
      (block.unproven view) (.ofOpen production view block round header) where
  agrees := agrees_of_assembling round assembling
  kept := by
    refine ⟨?_, ?_, ?_⟩
    · simp [assembling.opened, SealedBlock.ofOpen, assembling.number]
    · simp [SealedBlock.ofOpen]
    · simp [Production.observe, SealedBlock.ofOpen]
  contents := by
    simp [assembling.contents, SealedBlock.ofOpen, SealedBlock.items, Assembler.boundary]
  number := assembling.number.symm
  previousHash := assembling.previousHash.symm
  hash := rfl

theorem proven_of_awaits {calls more : List Call} {history : List Event}
    {resolved : ResolvedBlock WriterId} {sealedBlock : SealedBlock} {signature : Signature}
    {blocks : List (ResolvedBlock WriterId)} {answer : Except StreamError (List FinalizedBlock)}
    (awaits : Awaits calls (.ofHistory history) resolved.block sealedBlock)
    (leads : resolved.block.hash.linkAll resolved.siblings = signature.message)
    (proof : contents more resolved.block.writer =
      [(Ledger.proofItem signature.content resolved).encode])
    (unopened : openings more resolved.block.writer = []) :
    Proven (calls ++ more) (history ++ [.signed signature blocks answer]) resolved.block.writer
      ⟨sealedBlock, resolved.proof signature.content, signature⟩ where
  agrees := awaits.agrees
  kept := by
    rw [Production.of_history_append]
    exact awaits.kept.extend unopened fun entry member => closed_of_observe _ member
  contents := by
    rw [contents_append, awaits.contents, proof, ProvenBlock.allItems, List.map_append]
    rfl
  number := awaits.number
  previousHash := awaits.previousHash
  content := rfl
  signed := by
    rw [← awaits.hash]
    exact leads
  asked := ⟨blocks, answer, by simp⟩

theorem assembling_of_counted {calls : List Call} {production : Production} {view : View}
    {block counted : OpenBlock} {header : Header}
    (assembling : Assembling calls production view block header)
    (added : Assembler.addRound block = .ok counted) :
    Assembling calls production view counted header := by
  obtain ⟨rfl, _⟩ := Assembler.add_round_ok added
  exact ⟨assembling.opened, assembling.contents, assembling.number, assembling.previousHash,
    assembling.items, assembling.input, assembling.output, assembling.unmanaged⟩

end ProvenBlocks
