import ProvenBlocks.Proofs.Accounts

/-!
How one writer is called on. It is opened for one block, takes in the header, the items, the
boundary and the proof of that block, and is closed; a call that fails is its last one. The stages
of a block tell how far its writer has come. Once nobody has it, it was closed or a call has failed,
or the checkpoint was lost.
-/

namespace ProvenBlocks

/-! ### Calls on one writer -/

namespace Call

/-- A call that a writer has to answer. -/
def isOn (writer : WriterId) : Call → Bool
  | .openBlock other _ _ | .writeItem other _ _ | .closeBlock other _ => other == writer
  | .create _ | .release _ | .save _ _ => false

def created? : Call → Option WriterId
  | .create (.ok writer) => some writer
  | _ => none

def attempt? : Call → Option (WriterId × UInt64)
  | .openBlock writer number _ => some (writer, number)
  | _ => none

end Call

def callsOn (calls : List Call) (writer : WriterId) : List Call := calls.filter (Call.isOn writer)

/-- The writers in the order of their creation. -/
def createdWriters (calls : List Call) : List WriterId := calls.filterMap Call.created?

/-- The openings in order, whether they succeeded or not. -/
def attempts (calls : List Call) : List (WriterId × UInt64) := calls.filterMap Call.attempt?

def Fails (calls : List Call) (writer : WriterId) : Prop :=
  ∃ call ∈ callsOn calls writer, call.isFailure = true

/-- The checkpoint of the block that the writer was opened for could not be saved. -/
def IsUnsaved (calls : List Call) (writer : WriterId) : Prop :=
  ∃ number ∈ openings calls writer, ∃ checkpoint error,
    checkpoint.blockNumber = some number ∧ Call.save checkpoint (.error error) ∈ calls

/-- The items accepted for a block: what had been taken in when it was closed, or since the last
block was closed if this one was not. -/
def Production.accepted (production : Production) (number : UInt64) : List Item :=
  match production.closed.find? fun entry => entry.1.number == number with
  | some entry => entry.2
  | none => production.taken

/-- What is asked of the writer of one block, from its opening to its closing. -/
structure Protocol where
  number : UInt64
  header : Header
  items : List Item
  boundary : StateChanges
  proof : BlockProof

namespace Protocol

def allItems (protocol : Protocol) : List Item :=
  .header protocol.header ::
    (protocol.items ++ [.stateChanges protocol.boundary, .proof protocol.proof])

theorem all_items_split (protocol : Protocol) : protocol.allItems =
    (.header protocol.header :: (protocol.items ++ [.stateChanges protocol.boundary])) ++
      [.proof protocol.proof] := by
  simp [allItems]

def writes (writer : WriterId) (items : List Item) : List Effect :=
  items.map fun item => .writeItem writer item.encode

def effects (protocol : Protocol) (writer : WriterId) : List Effect :=
  .openBlock writer protocol.number :: (writes writer protocol.allItems ++ [.closeBlock writer])

/-- All parts are about one block. -/
structure Agrees (protocol : Protocol) : Prop where
  header : protocol.header.number = protocol.number
  items : ∀ item ∈ protocol.items, item.isManaged = false
  boundary : ∃ checkpoint, checkpoint.blockNumber = some protocol.number ∧
    protocol.boundary.changes = [⟨streamInfoName, .streamInfo checkpoint⟩]
  proof : protocol.proof.block = protocol.number

end Protocol

/-- How a writer was called on: as the protocol has it, up to some call, and no call after one that
failed. An item that could not be written is the last one, though it was not accepted. -/
structure Conduct (calls : List Call) (accepted : List Item) (writer : WriterId)
    (protocol : Protocol) : Prop where
  agrees : protocol.Agrees
  order : (callsOn calls writer).map Call.effect <+: protocol.effects writer
  failing : ∀ call ∈ (callsOn calls writer).dropLast, call.isFailure = false
  items : protocol.items = accepted ∨ ∃ item fault, protocol.items = accepted ++ [item] ∧
    (callsOn calls writer).getLast? = some (.writeItem writer item.encode (.error fault))

section

variable {calls more : List Call} {writer : WriterId}

theorem calls_on_subset : callsOn calls writer ⊆ calls := List.filter_subset_self ..

theorem calls_on_append :
    callsOn (calls ++ more) writer = callsOn calls writer ++ callsOn more writer :=
  List.filter_append ..

theorem created_writers_append :
    createdWriters (calls ++ more) = createdWriters calls ++ createdWriters more :=
  List.filterMap_append

theorem attempts_append : attempts (calls ++ more) = attempts calls ++ attempts more :=
  List.filterMap_append

theorem calls_on_untouched (untouched : Untouched calls writer) : callsOn calls writer = [] := by
  apply List.filter_eq_nil_iff.mpr
  intro call member isOn
  have other := untouched call member
  cases call <;> simp_all [Call.isOn, Call.writer?]

theorem calls_on_extend (untouched : Untouched more writer) :
    callsOn (calls ++ more) writer = callsOn calls writer := by
  rw [calls_on_append, calls_on_untouched untouched, List.append_nil]

theorem Fails.extend (fails : Fails calls writer) (more : List Call) :
    Fails (calls ++ more) writer := by
  obtain ⟨call, member, failed⟩ := fails
  exact ⟨call, calls_on_append ▸ List.mem_append_left _ member, failed⟩

theorem IsUnsaved.extend (unsaved : IsUnsaved calls writer) (more : List Call) :
    IsUnsaved (calls ++ more) writer := by
  obtain ⟨number, opened, checkpoint, error, about, member⟩ := unsaved
  refine ⟨number, ?_, checkpoint, error, about, List.mem_append_left _ member⟩
  rw [openings_append]
  exact List.mem_append_left _ opened

theorem Conduct.extend {accepted : List Item} {protocol : Protocol}
    (conduct : Conduct calls accepted writer protocol) (untouched : Untouched more writer) :
    Conduct (calls ++ more) accepted writer protocol := by
  have same : callsOn (calls ++ more) writer = callsOn calls writer := calls_on_extend untouched
  exact ⟨conduct.agrees, same ▸ conduct.order, same ▸ conduct.failing, same ▸ conduct.items⟩

end

/-! ### Writers in use -/

/-- Every call on the writer has succeeded: its openings, and then what it has taken in. -/
def Smooth (calls : List Call) (writer : WriterId) : Prop :=
  callsOn calls writer =
    ((openings calls writer).map fun number => .openBlock writer number (.ok ())) ++
      (contents calls writer).map fun content => .writeItem writer content (.ok ())

/-- The calls of a block of which some items have been written. -/
def succeeded (writer : WriterId) (number : UInt64) (items : List Item) : List Call :=
  .openBlock writer number (.ok ()) :: items.map fun item => .writeItem writer item.encode (.ok ())

section

variable {calls more : List Call} {writer : WriterId} {number : UInt64} {items : List Item}

theorem Smooth.succeeded (smooth : Smooth calls writer) (opened : openings calls writer = [number])
    (taken : contents calls writer = items.map Item.encode) :
    callsOn calls writer = ProvenBlocks.succeeded writer number items := by
  rw [smooth, opened, taken, List.map_map]
  rfl

theorem Smooth.extend (smooth : Smooth calls writer) (unopened : openings more writer = [])
    (written : callsOn more writer =
      (contents more writer).map fun content => .writeItem writer content (.ok ())) :
    Smooth (calls ++ more) writer := by
  rw [Smooth, calls_on_append, openings_append, contents_append, unopened, written, smooth,
    List.append_nil, List.map_append, List.append_assoc]

theorem Smooth.beside (smooth : Smooth calls writer) (untouched : Untouched more writer) :
    Smooth (calls ++ more) writer := by
  apply smooth.extend (openings_untouched untouched)
  rw [calls_on_untouched untouched, contents_untouched untouched]
  rfl

theorem Smooth.of_opened (untouched : Untouched calls writer) (number : UInt64) :
    Smooth (calls ++ [.create (.ok writer), .openBlock writer number (.ok ())]) writer := by
  rw [Smooth, calls_on_append, openings_append, contents_append, calls_on_untouched untouched,
    openings_untouched untouched, contents_untouched untouched]
  simp [callsOn, Call.isOn]

theorem Smooth.written (smooth : Smooth calls writer) (other : WriterId) (content : Bytes) :
    Smooth (calls ++ [.writeItem other content (.ok ())]) writer := by
  by_cases same : other = writer
  · subst same
    exact smooth.extend rfl (by simp [callsOn, Call.isOn])
  · exact smooth.beside (by simp [Untouched, Call.writer?, same])

theorem succeeded_failing : ∀ call ∈ succeeded writer number items, call.isFailure = false := by
  intro call member
  rcases List.mem_cons.mp member with rfl | written
  · rfl
  · obtain ⟨item, _, rfl⟩ := List.mem_map.mp written
    rfl

/-- A block that has come some way, and maybe one call further. -/
theorem Conduct.of_succeeded {protocol : Protocol} {accepted : List Item}
    (agrees : protocol.Agrees) (items rest : List Item) (whole : protocol.allItems = items ++ rest)
    (last : List Call)
    (done : callsOn calls writer = succeeded writer protocol.number items ++ last)
    (next : last.map Call.effect <+: Protocol.writes writer rest ++ [.closeBlock writer])
    (short : last.length ≤ 1)
    (accepts : protocol.items = accepted ∨ ∃ item fault, protocol.items = accepted ++ [item] ∧
      last = [.writeItem writer item.encode (.error fault)]) :
    Conduct calls accepted writer protocol where
  agrees := agrees
  order := by
    have split : protocol.effects writer =
        .openBlock writer protocol.number :: (Protocol.writes writer items ++
          (Protocol.writes writer rest ++ [.closeBlock writer])) := by
      rw [Protocol.effects, whole, Protocol.writes, List.map_append, List.append_assoc]
      rfl
    rw [done, split, List.map_append, succeeded, List.map_cons, List.map_map, List.cons_append]
    exact List.cons_prefix_cons.mpr ⟨rfl, (List.prefix_append_right_inj _).mpr next⟩
  failing := by
    rw [done]
    rcases last with _ | ⟨call, _ | ⟨further, others⟩⟩
    · intro call member
      rw [List.append_nil] at member
      exact succeeded_failing call (List.dropLast_subset _ member)
    · rw [List.dropLast_concat]
      exact succeeded_failing
    · simp at short
  items := by
    rcases accepts with same | ⟨item, fault, longer, rfl⟩
    · exact .inl same
    · refine .inr ⟨item, fault, longer, ?_⟩
      rw [done, List.getLast?_append]
      rfl

/-- A protocol of which only the first parts are known. -/
def Protocol.begun (header : Header) (items : List Item) (boundary : StateChanges) : Protocol :=
  ⟨header.number, header, items, boundary, ⟨header.number, .zero, [], []⟩⟩

def blankBoundary (number : UInt64) : StateChanges :=
  ⟨⟨0, 0⟩, [⟨streamInfoName, .streamInfo ⟨some number, none, [], []⟩⟩]⟩

theorem Protocol.begun_agrees {header : Header} {boundary : StateChanges}
    (unmanaged : ∀ item ∈ items, item.isManaged = false)
    (info : ∃ checkpoint, checkpoint.blockNumber = some header.number ∧
      boundary.changes = [⟨streamInfoName, .streamInfo checkpoint⟩]) :
    (begun header items boundary).Agrees := ⟨rfl, unmanaged, info, rfl⟩

theorem blank_boundary_info (number : UInt64) : ∃ checkpoint,
    checkpoint.blockNumber = some number ∧
      (blankBoundary number).changes = [⟨streamInfoName, .streamInfo checkpoint⟩] :=
  ⟨_, rfl, rfl⟩

end

/-! ### Writers at each stage -/

section

variable {calls more : List Call} {writer : WriterId} {production : Production} {view : View}
  {block : OpenBlock} {header : Header}

theorem succeeded_concat (writer : WriterId) (number : UInt64) (items : List Item) (item : Item) :
    succeeded writer number (items ++ [item]) =
      succeeded writer number items ++ [.writeItem writer item.encode (.ok ())] := by
  simp [succeeded]

namespace Assembling

variable (assembling : Assembling calls production view block header)

include assembling

/-- The protocol with the boundary that is written at the end of a round. -/
theorem bounded_agrees (round : Round) :
    (Protocol.begun header production.taken
      ⟨round.time, [⟨streamInfoName, .streamInfo (block.checkpoint view)⟩]⟩).Agrees :=
  Protocol.begun_agrees assembling.unmanaged
    ⟨block.checkpoint view, congrArg some assembling.number.symm, rfl⟩

variable (smooth : Smooth calls block.writer)

include smooth

theorem calls_on : callsOn calls block.writer =
    succeeded block.writer header.number (.header header :: production.taken) :=
  smooth.succeeded (assembling.number ▸ assembling.opened) assembling.contents

theorem conduct : Conduct calls production.taken block.writer
    (.begun header production.taken (blankBoundary header.number)) := by
  refine .of_succeeded (Protocol.begun_agrees assembling.unmanaged (blank_boundary_info _))
    (.header header :: production.taken) _ rfl [] ?_ List.nil_prefix (Nat.zero_le 1) (.inl rfl)
  rw [List.append_nil]
  exact assembling.calls_on smooth

/-- The item that could not be written comes last, unless it is the boundary. -/
theorem conduct_failed {item : Item} {fault : IoFault}
    (kind : item.isManaged = false ∨
      ∃ round : Round, item = Assembler.boundary round (block.checkpoint view))
    (failed : callsOn more block.writer = [.writeItem block.writer item.encode (.error fault)]) :
    ∃ protocol : Protocol, protocol.number = block.number ∧
      Conduct (calls ++ more) production.taken block.writer protocol := by
  have done : callsOn (calls ++ more) block.writer =
      succeeded block.writer header.number (.header header :: production.taken) ++
        [.writeItem block.writer item.encode (.error fault)] := by
    rw [calls_on_append, assembling.calls_on smooth, failed]
  have next : ∀ rest, [Effect.writeItem block.writer item.encode] <+:
      Protocol.writes block.writer (item :: rest) ++ [.closeBlock block.writer] :=
    fun rest => List.cons_prefix_cons.mpr ⟨rfl, List.nil_prefix⟩
  rcases kind with unmanaged | ⟨round, rfl⟩
  · have agrees : (Protocol.begun header (production.taken ++ [item])
        (blankBoundary header.number)).Agrees := by
      apply Protocol.begun_agrees _ (blank_boundary_info _)
      intro other member
      rcases List.mem_append.mp member with earlier | same
      · exact assembling.unmanaged other earlier
      · rwa [List.mem_singleton.mp same]
    have whole : (Protocol.begun header (production.taken ++ [item])
        (blankBoundary header.number)).allItems = (.header header :: production.taken) ++ item ::
          [.stateChanges (blankBoundary header.number), .proof ⟨header.number, .zero, [], []⟩] := by
      simp [Protocol.allItems, Protocol.begun]
    exact ⟨_, assembling.number, .of_succeeded agrees _ _ whole _ done (next _) (Nat.le_refl 1)
      (.inr ⟨item, fault, rfl, rfl⟩)⟩
  · have agrees := assembling.bounded_agrees round
    exact ⟨_, assembling.number, .of_succeeded agrees (.header header :: production.taken) _ rfl _
      done (next _) (Nat.le_refl 1) (.inl rfl)⟩

/-- The boundary has been written, and nothing after it. -/
theorem conduct_bounded (round : Round)
    (written : callsOn more block.writer = [.writeItem block.writer
      (Assembler.boundary round (block.checkpoint view)).encode (.ok ())]) :
    ∃ protocol : Protocol, protocol.number = block.number ∧
      Conduct (calls ++ more) production.taken block.writer protocol := by
  have done : callsOn (calls ++ more) block.writer = succeeded block.writer header.number
      (.header header :: production.taken ++
        [Assembler.boundary round (block.checkpoint view)]) ++ [] := by
    rw [calls_on_append, assembling.calls_on smooth, written, succeeded_concat, List.append_nil]
  exact ⟨_, assembling.number, .of_succeeded (assembling.bounded_agrees round) _ _
    (Protocol.all_items_split _) _ done List.nil_prefix (Nat.zero_le 1) (.inl rfl)⟩

end Assembling

/-- The protocol of a closed block. -/
def SealedBlock.protocol (block : SealedBlock) (proof : BlockProof) : Protocol :=
  ⟨block.header.number, block.header, block.taken, block.changes, proof⟩

theorem SealedBlock.Agrees.protocol {block : SealedBlock} (agrees : block.Agrees)
    {proof : BlockProof} (number : proof.block = block.header.number) :
    (block.protocol proof).Agrees :=
  ⟨rfl, agrees.unmanaged, ⟨_, agrees.saved, agrees.boundary⟩, number⟩

namespace Awaits

variable {pending : UnprovenBlock WriterId} {sealedBlock : SealedBlock}
  (awaits : Awaits calls production pending sealedBlock) (smooth : Smooth calls pending.writer)

include awaits smooth

theorem calls_on : callsOn calls pending.writer =
    succeeded pending.writer sealedBlock.header.number sealedBlock.items :=
  smooth.succeeded awaits.kept.opened awaits.contents

theorem conduct : Conduct calls sealedBlock.taken pending.writer
    (sealedBlock.protocol ⟨sealedBlock.header.number, .zero, [], []⟩) := by
  refine .of_succeeded (awaits.agrees.protocol rfl) _ _ (Protocol.all_items_split _) [] ?_
    List.nil_prefix (Nat.zero_le 1) (.inl rfl)
  rw [List.append_nil]
  exact awaits.calls_on smooth

end Awaits

end

/-! ### What became of a writer -/

/-- How a writer came to be nobody's: its block was closed and then proven, or not, or it was lost
with a stream that has halted since. -/
inductive Ended (calls : List Call) (production : Production) (assembler : Assembler)
    (writer : WriterId) : Prop
  | completed (protocol : Protocol) (closed : ClosedBlock) (items : List Item)
      (conduct : Conduct calls items writer protocol)
      (member : (closed, items) ∈ production.closed) (number : closed.number = protocol.number)
      (ending : IsClosed calls writer ∨ Fails calls writer)
  | lost (protocol : Protocol) (conduct : Conduct calls production.taken writer protocol)
      (unclosed : protocol.number ∉ production.numbers)
      (ending : Fails calls writer ∨ IsUnsaved calls writer)
      (halted : assembler.isHalted = true)

theorem Ended.extend {calls more : List Call} {production later : Production}
    {assembler next : Assembler} {writer : WriterId}
    (ended : Ended calls production assembler writer) (untouched : Untouched more writer)
    (closed : ∀ entry ∈ production.closed, entry ∈ later.closed)
    (halted : assembler.isHalted = true → next.isHalted = true ∧ later = production) :
    Ended (calls ++ more) later next writer := by
  cases ended with
  | completed protocol block items conduct member number ending =>
      refine .completed protocol block items (conduct.extend untouched) (closed _ member) number ?_
      rcases ending with closing | fails
      · exact .inl (is_closed_append.mpr (.inl closing))
      · exact .inr (fails.extend more)
  | lost protocol conduct unclosed ending stopped =>
      obtain ⟨still, rfl⟩ := halted stopped
      refine .lost protocol (conduct.extend untouched) unclosed ?_ still
      rcases ending with fails | unsaved
      · exact .inl (fails.extend more)
      · exact .inr (unsaved.extend more)

/-! ### Proofs -/

section

variable {signature : Bytes} {calls more : List Call} {production : Production}
  {assembler : Assembler}

/-- The proof could not be written, or it was written and the block closed in some way. -/
def IsProven (signature : Bytes) (resolved : ResolvedBlock WriterId) (calls : List Call) : Prop :=
  (∃ fault, callsOn calls resolved.block.writer = [.writeItem resolved.block.writer
      (Ledger.proofItem signature resolved).encode (.error fault)]) ∨
    ∃ answer, callsOn calls resolved.block.writer = [.writeItem resolved.block.writer
      (Ledger.proofItem signature resolved).encode (.ok ()),
        .closeBlock resolved.block.writer answer]

theorem ProofNoted.proven {resolved : ResolvedBlock WriterId} {answer : Except StreamError Unit}
    (noted : ProofNoted signature resolved answer calls) : IsProven signature resolved calls := by
  cases noted with
  | notWritten fault => exact .inl ⟨fault, by simp [callsOn, Call.isOn]⟩
  | notClosed fault => exact .inr ⟨.error fault, by simp [callsOn, Call.isOn]⟩
  | closed => exact .inr ⟨.ok (), by simp [callsOn, Call.isOn]⟩

theorem IsProven.cons {resolved other : ResolvedBlock WriterId}
    {later : List (ResolvedBlock WriterId)}
    (distinct : ((resolved :: later).map fun other => other.block.writer).Nodup)
    (head : ProofCalls signature [resolved] calls) (tail : ProofCalls signature later more)
    (first : IsProven signature resolved calls)
    (rest : ∀ other ∈ later, IsProven signature other more) (member : other ∈ resolved :: later) :
    IsProven signature other (calls ++ more) := by
  have apart : ∀ other ∈ later, other.block.writer ≠ resolved.block.writer :=
    fun other member same =>
      (List.nodup_cons.mp distinct).1 (List.mem_map.mpr ⟨other, member, same⟩)
  rcases List.mem_cons.mp member with rfl | inTail
  · unfold IsProven
    rw [calls_on_extend (tail.others _ apart)]
    exact first
  · have elsewhere : callsOn calls other.block.writer = [] := by
      apply calls_on_untouched
      apply head.others
      intro found same
      rw [List.mem_singleton.mp same]
      exact (apart other inTail).symm
    unfold IsProven
    rw [calls_on_append, elsewhere, List.nil_append]
    exact rest other inTail

theorem ProofsNoted.proven {blocks : List (ResolvedBlock WriterId)}
    {written : List FinalizedBlock × Option StreamError}
    (distinct : (blocks.map fun resolved => resolved.block.writer).Nodup)
    (noted : ProofsNoted signature blocks written calls) :
    ∀ resolved ∈ blocks, IsProven signature resolved calls := by
  induction noted with
  | nil => exact fun resolved member => by cases member
  | failed head tail inductive_hypothesis =>
      have others := (List.nodup_cons.mp distinct).2
      exact fun resolved => IsProven.cons distinct (proof_calls_of_noted head)
        (proof_calls_of_all_noted others tail) head.proven (inductive_hypothesis others)
  | written head tail inductive_hypothesis =>
      have others := (List.nodup_cons.mp distinct).2
      exact fun resolved => IsProven.cons distinct (proof_calls_of_noted head)
        (proof_calls_of_all_noted others tail) head.proven (inductive_hypothesis others)

theorem ProofsNoted.creates_nothing {blocks : List (ResolvedBlock WriterId)}
    {written : List FinalizedBlock × Option StreamError}
    (noted : ProofsNoted signature blocks written calls) :
    createdWriters calls = [] ∧ attempts calls = [] := by
  have one : ∀ {resolved : ResolvedBlock WriterId} {answer : Except StreamError Unit}
      {calls : List Call}, ProofNoted signature resolved answer calls →
        createdWriters calls = [] ∧ attempts calls = [] := by
    intro resolved answer calls noted
    cases noted <;> exact ⟨rfl, rfl⟩
  induction noted with
  | nil => exact ⟨rfl, rfl⟩
  | failed head tail inductive_hypothesis | written head tail inductive_hypothesis =>
      rw [created_writers_append, attempts_append, (one head).1, (one head).2]
      exact inductive_hypothesis

/-- A block that has waited for its proof is over once the proof is attempted. -/
theorem Awaits.ended {resolved : ResolvedBlock WriterId} {sealedBlock : SealedBlock}
    (awaits : Awaits calls production resolved.block sealedBlock)
    (smooth : Smooth calls resolved.block.writer) (proven : IsProven signature resolved more) :
    Ended (calls ++ more) production assembler resolved.block.writer := by
  have agrees := awaits.agrees.protocol
    (show (resolved.proof signature).block = sealedBlock.header.number from awaits.number)
  have before := awaits.calls_on smooth
  rcases proven with ⟨fault, failed⟩ | ⟨answer, closed⟩
  · have done : callsOn (calls ++ more) resolved.block.writer =
        succeeded resolved.block.writer sealedBlock.header.number sealedBlock.items ++
          [.writeItem resolved.block.writer (Ledger.proofItem signature resolved).encode
            (.error fault)] := by
      rw [calls_on_append, before, failed]
    have ending : Fails (calls ++ more) resolved.block.writer :=
      ⟨_, done ▸ List.mem_append_right _ (List.mem_singleton_self _), rfl⟩
    exact .completed _ _ _ (.of_succeeded agrees _ _ (Protocol.all_items_split _) _ done
      (List.cons_prefix_cons.mpr ⟨rfl, List.nil_prefix⟩) (Nat.le_refl 1) (.inl rfl))
      awaits.kept.closed awaits.agrees.number (.inr ending)
  · have done : callsOn (calls ++ more) resolved.block.writer =
        succeeded resolved.block.writer sealedBlock.header.number
          (sealedBlock.items ++ [Ledger.proofItem signature resolved]) ++
            [.closeBlock resolved.block.writer answer] := by
      rw [calls_on_append, before, closed, succeeded_concat, List.append_assoc]
      rfl
    have ending : IsClosed (calls ++ more) resolved.block.writer :=
      ⟨answer, calls_on_subset (done ▸ List.mem_append_right _ (List.mem_singleton_self _))⟩
    refine .completed _ _ _ (.of_succeeded agrees
      (sealedBlock.items ++ [Ledger.proofItem signature resolved]) [] ?_ _ done
      (List.prefix_refl _) (Nat.le_refl 1) (.inl rfl))
      awaits.kept.closed awaits.agrees.number (.inl ending)
    rw [List.append_nil]
    exact Protocol.all_items_split _

end

end ProvenBlocks
