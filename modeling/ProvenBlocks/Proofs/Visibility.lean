import ProvenBlocks.Proofs.Calm
import ProvenBlocks.Proofs.Queries

/-!
Between two effects. Calls of consensus and signatures are worked off one effect at a time, readers
look at the view in between, and any call on a writer or on the stored checkpoint may fail. A script
is careful if it shows, hands over and asks a signature for nothing but what was saved before; the
scripts of the assembler are careful whatever they are answered.
-/

namespace ProvenBlocks

/-- A checkpoint of the block was saved, and its newest hash is the hash of the block. -/
def IsSaved (saved : List Checkpoint) (number : UInt64) (hash : Digest) : Prop :=
  ∃ checkpoint ∈ saved, checkpoint.blockNumber = some number ∧ checkpoint.lastHash = some hash

theorem IsSaved.append {saved : List Checkpoint} {number : UInt64} {hash : Digest}
    (isSaved : IsSaved saved number hash) (more : List Checkpoint) :
    IsSaved (saved ++ more) number hash := by
  obtain ⟨checkpoint, member, found⟩ := isSaved
  exact ⟨checkpoint, List.mem_append_left more member, found⟩

/-- Readers of the second view see the chain and the seed of the first one, or one saved block
more. -/
inductive View.Shows (view : View) (saved : List Checkpoint) (shown : View) : Prop
  | same (chain : shown.chain = view.chain) (seed : shown.seed = view.seed)
  | next (number : UInt64) (hash : Digest) (next : view.chain.nextNumber = .ok number)
      (isSaved : IsSaved saved number hash) (chain : shown.chain = view.chain.extended number hash)

/-! ### Effects -/

namespace Effect

/-- What readers see after an effect. -/
def shown (view : View) : Effect → View
  | .writeView shown => shown
  | _ => view

/-- What an effect has saved. -/
def saved : (effect : Effect) → effect.Answer → List Checkpoint
  | .save checkpoint, answer => saves [.save checkpoint answer]
  | _, _ => []

/-- Only the view answers for itself; anything else may answer anything. -/
def Fits (view : View) : (effect : Effect) → effect.Answer → Prop
  | .readView, answer => answer = view
  | _, _ => True

/-- Nothing comes into view before it was saved. -/
def IsCareful (view : View) (saved : List Checkpoint) : Effect → Prop
  | .writeView shown => view.Shows saved shown
  | .enqueue block => IsSaved saved block.number block.hash
  | .requestSignature hash => ∃ number, IsSaved saved number hash
  | _ => True

/-- Effects that leave alone what readers see, what was saved and what was asked for, and hand over
nothing. -/
def IsQuiet : Effect → Prop
  | .writeView _ | .save _ | .enqueue _ | .requestSignature _ => False
  | _ => True

variable {view : View} {effect : Effect}

theorem IsQuiet.shown (quiet : effect.IsQuiet) : effect.shown view = view := by
  cases effect with
  | writeView => exact quiet.elim
  | _ => rfl

theorem IsQuiet.saved (quiet : effect.IsQuiet) (answer : effect.Answer) :
    effect.saved answer = [] := by
  cases effect with
  | save => exact quiet.elim
  | _ => rfl

theorem IsQuiet.careful (quiet : effect.IsQuiet) (saved : List Checkpoint) :
    effect.IsCareful view saved := by
  cases effect with
  | writeView | enqueue | requestSignature => exact quiet.elim
  | _ => exact trivial

end Effect

section

variable {σ : Type} (platform : Platform σ) (world : World (Journal σ)) (effect : Effect)

theorem World.answer_view :
    (world.answer platform.journaled effect).2.view = effect.shown world.view := by
  cases effect with
  | enqueue block =>
      simp only [World.answer]
      cases world.unproven.push block <;> rfl
  | _ => rfl

theorem World.answer_fits :
    effect.Fits world.view (world.answer platform.journaled effect).1 := by
  cases effect with
  | readView => rfl
  | _ => exact trivial

theorem World.answer_saves :
    saves (world.answer platform.journaled effect).2.platform.calls =
      saves world.platform.calls ++
        effect.saved (world.answer platform.journaled effect).1 := by
  rw [world.answer_noted, saves_append]
  cases effect <;> rfl

/-- What was asked for was there before, or the effect asked for it. -/
theorem World.answer_requests {hash : Digest}
    (asked : hash ∈ (world.answer platform.journaled effect).2.requests) :
    hash ∈ world.requests ∨ effect = .requestSignature hash := by
  cases effect with
  | requestSignature other =>
      rcases List.mem_append.mp asked with earlier | same
      · exact .inl earlier
      · rw [List.mem_singleton.mp same]
        exact .inr rfl
  | enqueue block =>
      simp only [World.answer] at asked
      cases pushed : world.unproven.push block <;> rw [pushed] at asked <;> exact .inl asked
  | _ => exact .inl asked

/-- What is unproven was so before, or the effect handed it over. -/
theorem World.answer_unproven {block : UnprovenBlock WriterId}
    (pending : block ∈ (world.answer platform.journaled effect).2.unproven.blocks) :
    block ∈ world.unproven.blocks ∨ effect = .enqueue block := by
  cases effect with
  | enqueue other =>
      have outcome := world.unproven.push_outcome other
      simp only [World.answer] at pending
      generalize world.unproven.push other = pushed at outcome pending
      cases outcome with
      | accepted =>
          rcases List.mem_append.mp pending with earlier | same
          · exact .inl earlier
          · rw [List.mem_singleton.mp same]
            exact .inr rfl
      | refused | overflow => exact .inl pending
  | resolve signed =>
      exact .inl ((UnprovenRun.resolve_suffix world.unproven signed).subset pending)
  | _ => exact .inl pending

end

/-! ### Careful scripts -/

namespace Script

variable {α β : Type}

/-- Whatever it is answered, the script shows, hands over and asks for nothing that was not saved
before. The view and the checkpoints saved are those that the script starts with; at its end the
given property holds. -/
def IsCareful (ends : α → View → List Checkpoint → Prop) :
    Script α → View → List Checkpoint → Prop
  | .done value, view, saved => ends value view saved
  | .stop _, _, _ => True
  | .perform effect next, view, saved =>
      effect.IsCareful view saved ∧ ∀ answer, effect.Fits view answer →
        (next answer).IsCareful ends (effect.shown view) (saved ++ effect.saved answer)

/-- All effects of the script are quiet. -/
def IsQuiet : Script α → Prop
  | .done _ | .stop _ => True
  | .perform effect next => effect.IsQuiet ∧ ∀ answer, (next answer).IsQuiet

variable {ends : α → View → List Checkpoint → Prop} {later : β → View → List Checkpoint → Prop}
  {script : Script α} {following : α → Script β} {view : View} {saved : List Checkpoint}

theorem IsCareful.bind (first : script.IsCareful ends view saved)
    (onward : ∀ value shown more, ends value shown more →
      (following value).IsCareful later shown more) :
    (script >>= following).IsCareful later view saved := by
  induction script generalizing view saved with
  | done value => exact onward value view saved first
  | stop overflow => exact trivial
  | perform effect next inductive_hypothesis =>
      obtain ⟨careful, further⟩ := first
      constructor
      · exact careful
      · intro answer fits
        exact inductive_hypothesis answer (further answer fits)

theorem IsQuiet.bind (first : script.IsQuiet) (onward : ∀ value, (following value).IsQuiet) :
    (script >>= following).IsQuiet := by
  induction script with
  | done value => exact onward value
  | stop overflow => exact trivial
  | perform effect next inductive_hypothesis =>
      exact ⟨first.1, fun answer => inductive_hypothesis answer (first.2 answer)⟩

@[simp] theorem careful_pure (value : α) :
    (pure value : Script α).IsCareful ends view saved ↔ ends value view saved := .rfl

theorem careful_ask {effect : Effect} {following : effect.Answer → Script α} :
    (ask effect >>= following).IsCareful ends view saved ↔
      effect.IsCareful view saved ∧ ∀ answer, effect.Fits view answer →
        (following answer).IsCareful ends (effect.shown view) (saved ++ effect.saved answer) :=
  .rfl

theorem careful_ask_quiet (effect : Effect) (quiet : effect.IsQuiet)
    {following : effect.Answer → Script α} :
    (ask effect >>= following).IsCareful ends view saved ↔
      ∀ answer, effect.Fits view answer → (following answer).IsCareful ends view saved := by
  simp only [careful_ask, quiet.careful, quiet.shown, quiet.saved, List.append_nil, true_and]

@[simp] theorem careful_create_writer {following : Except IoFault WriterId → Script α} :
    (createWriter >>= following).IsCareful ends view saved ↔
      ∀ answer, (following answer).IsCareful ends view saved :=
  (careful_ask_quiet .createWriter trivial).trans
    (forall_congr' fun _ => true_imp_iff)

@[simp] theorem careful_open_block {writer : WriterId} {number : UInt64}
    {following : Except IoFault Unit → Script α} :
    (openBlock writer number >>= following).IsCareful ends view saved ↔
      ∀ answer, (following answer).IsCareful ends view saved :=
  (careful_ask_quiet (.openBlock writer number) trivial).trans
    (forall_congr' fun _ => true_imp_iff)

@[simp] theorem careful_write_item {writer : WriterId} {content : Bytes}
    {following : Except IoFault Unit → Script α} :
    (writeItem writer content >>= following).IsCareful ends view saved ↔
      ∀ answer, (following answer).IsCareful ends view saved :=
  (careful_ask_quiet (.writeItem writer content) trivial).trans
    (forall_congr' fun _ => true_imp_iff)

@[simp] theorem careful_release {writer : WriterId} {following : Unit → Script α} :
    (release writer >>= following).IsCareful ends view saved ↔
      (following ()).IsCareful ends view saved :=
  (careful_ask_quiet (.release writer) trivial).trans
    ⟨fun onward => onward () trivial, fun onward _ _ => onward⟩

@[simp] theorem careful_count {counter : Counter} {following : Unit → Script α} :
    (count counter >>= following).IsCareful ends view saved ↔
      (following ()).IsCareful ends view saved :=
  (careful_ask_quiet (.count counter) trivial).trans
    ⟨fun onward => onward () trivial, fun onward _ _ => onward⟩

@[simp] theorem careful_read_view {following : View → Script α} :
    (readView >>= following).IsCareful ends view saved ↔
      (following view).IsCareful ends view saved :=
  (careful_ask_quiet .readView trivial).trans forall_eq

@[simp] theorem careful_write_view {shown : View} {following : Unit → Script α} :
    (writeView shown >>= following).IsCareful ends view saved ↔
      view.Shows saved shown ∧ (following ()).IsCareful ends shown saved := by
  change view.Shows saved shown ∧ (∀ answer, True →
    (following answer).IsCareful ends shown (saved ++ [])) ↔ _
  simp only [List.append_nil, Unique.forall_iff]

@[simp] theorem careful_save {checkpoint : Checkpoint}
    {following : Except StreamError Unit → Script α} :
    (save checkpoint >>= following).IsCareful ends view saved ↔
      ∀ answer, (following answer).IsCareful ends view
        (saved ++ saves [.save checkpoint answer]) := by
  change True ∧ (∀ answer, True → (following answer).IsCareful ends view
    (saved ++ saves [.save checkpoint answer])) ↔ _
  simp only [true_imp_iff, true_and]

@[simp] theorem careful_enqueue {block : UnprovenBlock WriterId}
    {following : Except Failure Unit → Script α} :
    (enqueue block >>= following).IsCareful ends view saved ↔
      IsSaved saved block.number block.hash ∧
        ∀ answer, (following answer).IsCareful ends view saved := by
  change IsSaved saved block.number block.hash ∧ (∀ answer, True →
    (following answer).IsCareful ends view (saved ++ [])) ↔ _
  simp only [List.append_nil, true_imp_iff]

@[simp] theorem careful_request_signature {hash : Digest} {following : Unit → Script α} :
    (requestSignature hash >>= following).IsCareful ends view saved ↔
      (∃ number, IsSaved saved number hash) ∧ (following ()).IsCareful ends view saved := by
  change (∃ number, IsSaved saved number hash) ∧ (∀ answer, True →
    (following answer).IsCareful ends view (saved ++ [])) ↔ _
  simp only [List.append_nil, Unique.forall_iff]

end Script

/-! ### Scripts of the assembler -/

namespace Assembler

variable (view : View) (saved : List Checkpoint)

theorem append_item_careful (block : OpenBlock) (item : Item) :
    (appendItem block item).IsCareful
      (fun _ shown more => shown.chain = view.chain ∧ more = saved) view saved := by
  simp only [appendItem, Script.careful_write_item]
  intro answer
  rcases answer with fault | _
  · simp
  · rcases item.root with _ | _ | _
    · simp
    · simp
    · simp only [Script.careful_read_view, Script.careful_write_view, Script.careful_count,
        Script.careful_pure, and_self, and_true]
      exact .same rfl rfl

theorem halt_careful {α : Type} (assembler : Assembler) (error : StreamError) :
    (assembler.halt (α := α) error).IsCareful (fun _ _ _ => True) view saved := by
  simp only [halt, Script.careful_read_view, Script.careful_write_view, Script.careful_pure,
    and_true]
  exact .same rfl rfl

theorem open_block_careful (settings : StreamSettings) (round : Round) :
    (openBlock settings round).IsCareful (fun _ _ _ => True) view saved := by
  simp only [openBlock, Script.careful_read_view]
  rcases view.chain.prior with _ | previousHash
  · trivial
  rcases view.chain.nextNumber with overflow | number
  · trivial
  change Script.IsCareful _ (Script.createWriter >>= _) view saved
  simp only [Script.careful_create_writer]
  rintro (fault | writer)
  · trivial
  simp only [Script.careful_open_block]
  rintro (fault | _)
  · simp
  apply (append_item_careful view saved _ _).bind
  rintro (error | block) shown more kept
  · simp
  simp only [Script.careful_read_view, Script.careful_write_view, Script.careful_count,
    Script.careful_pure, and_true]
  exact .same rfl rfl

theorem start_round_careful (assembler : Assembler) (round : Round) :
    (assembler.startRound round).IsCareful (fun _ _ _ => True) view saved := by
  unfold startRound
  rcases assembler.checkWritable with error | _
  · trivial
  cases assembler.phase with
  | assembling block => trivial
  | idle | frozen | halted =>
      simp only [Script.careful_read_view]
      split
      · apply (open_block_careful view saved _ _).bind
        rintro (error | block) shown more _
        · exact halt_careful shown more assembler error
        · trivial
      · trivial

theorem write_item_careful (assembler : Assembler) (item : Item) :
    (assembler.writeItem item).IsCareful (fun _ _ _ => True) view saved := by
  unfold writeItem
  rcases assembler.checkWritable with error | _
  · trivial
  dsimp only
  split
  · trivial
  cases assembler.phase with
  | assembling block =>
      apply (append_item_careful view saved _ _).bind
      rintro (error | written) shown more _
      · apply (halt_careful shown more assembler error).bind
        intro halted shown more _
        simp
      · trivial
  | idle | frozen | halted => trivial

/-- A checkpoint that was saved for the block is there from then on. -/
theorem submit_careful {block : UnprovenBlock WriterId}
    (isSaved : IsSaved saved block.number block.hash) :
    (Ledger.submit block).IsCareful (fun _ _ _ => True) view saved := by
  simp only [Ledger.submit, Script.careful_enqueue]
  refine ⟨isSaved, ?_⟩
  rintro ((error | overflow) | _)
  · simp
  · trivial
  · simp only [Script.careful_count, Script.careful_request_signature, Script.careful_pure,
      and_true]
    exact ⟨block.number, isSaved⟩

/-- The block is shown as the next one of the chain, and only after its checkpoint was saved. -/
theorem finish_block_careful (block : OpenBlock) (round : Round) :
    (finishBlock block round).IsCareful (fun _ _ _ => True) view saved := by
  simp only [finishBlock, Script.careful_read_view]
  rcases view.chain.nextHash _ with error | hash
  · simp
  dsimp only
  rcases appended : view.chain.append block.number hash with (error | overflow) | ⟨evicted, chain⟩
  · change Script.IsCareful _ (Script.release block.writer >>= _) view saved
    simp
  · trivial
  obtain ⟨next, rfl⟩ := Chain.append_ok appended
  change Script.IsCareful _ (appendItem block _ >>= _) view saved
  apply (append_item_careful view saved _ _).bind
  rintro (error | written) shown more ⟨same, rfl⟩
  · simp
  simp only [Script.careful_save]
  rintro (error | _)
  · simp
  simp only [Script.careful_write_view]
  have isSaved (checkpoint : Checkpoint) (last : checkpoint.blockNumber = some block.number)
      (newest : checkpoint.blockHashes = (view.chain.extended block.number hash).trailing) :
      IsSaved (more ++ saves [.save checkpoint (.ok ())]) block.number hash := by
    refine ⟨checkpoint, List.mem_append_right _ (List.mem_singleton_self _), last, ?_⟩
    rw [Checkpoint.lastHash, newest]
    exact Window.push_newest _ _
  constructor
  · exact .next block.number hash (same ▸ next) (isSaved _ rfl rfl) (same ▸ rfl)
  · apply Script.IsCareful.bind (submit_careful _ _ (isSaved _ rfl rfl))
    rintro (error | _) shown more _
    · trivial
    · simp

theorem end_round_careful (assembler : Assembler) (round : Round) :
    (assembler.endRound round).IsCareful (fun _ _ _ => True) view saved := by
  unfold endRound
  rcases assembler.checkWritable with error | _
  · trivial
  cases assembler.phase with
  | assembling block =>
      dsimp only
      rcases addRound block with overflow | counted
      · trivial
      change Script.IsCareful _ (if _ then _ else _) view saved
      split
      · trivial
      · apply (finish_block_careful view saved counted round).bind
        rintro (error | closed) shown more _
        · exact halt_careful shown more assembler error
        · trivial
  | idle | frozen | halted => trivial

end Assembler

/-! ### Scripts of the ledger -/

namespace Ledger

theorem write_proof_quiet (resolved : ResolvedBlock WriterId) (signature : Bytes) :
    (writeProof resolved signature).IsQuiet := by
  refine ⟨trivial, ?_⟩
  rintro (fault | _)
  · exact ⟨trivial, fun _ => trivial⟩
  · refine ⟨trivial, fun closed => ⟨trivial, fun _ => ?_⟩⟩
    rcases closed with fault | _ <;> trivial

theorem write_proofs_quiet (signature : Bytes) (resolved : List (ResolvedBlock WriterId)) :
    (writeProofs signature resolved).IsQuiet := by
  induction resolved with
  | nil => trivial
  | cons first later inductive_hypothesis =>
      apply (write_proof_quiet first signature).bind
      rintro (error | _)
      · exact inductive_hypothesis.bind fun _ => trivial
      · exact ⟨trivial, fun _ => inductive_hypothesis.bind fun _ => trivial⟩

theorem apply_signature_quiet (signed : Digest) (signature : Bytes) :
    (applySignature signed signature).IsQuiet := by
  refine ⟨trivial, ?_⟩
  rintro (_ | ⟨first, later⟩)
  · exact ⟨trivial, fun _ => trivial⟩
  · apply (write_proofs_quiet signature (first :: later)).bind
    rintro ⟨finalized, error | _⟩ <;> trivial

end Ledger

/-! ### Moments -/

/-- What the assembler does about a call, and the assembler that it leaves. -/
def Demand.work (assembler : Assembler) : Demand → Script Assembler
  | .startRound round => do return (← assembler.startRound round).2
  | .writeItem item => do return (← assembler.writeItem item).2
  | .endRound round => do return (← assembler.endRound round).2

/-- What can happen between two effects: a call arrives, or the work on it goes on; a signature
arrives, or the work on one of them goes on. -/
inductive Occurrence where
  | called (demand : Demand)
  | worked
  | signed (signature : Signature)
  | applied (index : Nat)

/-- What is shared, what is left to do of the call that the assembler works on, and what is left to
do of every signature. -/
structure Moment (σ : Type) where
  world : World σ
  work : Script Assembler
  signatures : List (Script (Except StreamError (List FinalizedBlock)))

namespace Moment

variable {σ : Type}

/-- An empty ledger and nothing to do. -/
def fresh (assembler : Assembler) (view : View) (platform : σ) : Moment σ :=
  ⟨⟨view, .empty, .zero, [], platform⟩, .done assembler, []⟩

/-- Work goes on with one effect. A call is taken up once the one before it is done, and after an
overflow never. -/
def step (platform : Platform σ) (moment : Moment σ) : Occurrence → Moment σ
  | .called demand =>
      match moment.work with
      | .done assembler => { moment with work := demand.work assembler }
      | .stop _ | .perform _ _ => moment
  | .worked =>
      match moment.work with
      | .perform effect next =>
          let (answer, world) := moment.world.answer platform effect
          { moment with world := world, work := next answer }
      | .done _ | .stop _ => moment
  | .signed signature =>
      { moment with
        signatures := moment.signatures ++
          [Ledger.applySignature signature.message signature.content] }
  | .applied index =>
      match moment.signatures[index]? with
      | some (.perform effect next) =>
          let (answer, world) := moment.world.answer platform effect
          { moment with world := world, signatures := moment.signatures.set index (next answer) }
      | _ => moment

def run (platform : Platform σ) (moment : Moment σ) (occurrences : List Occurrence) : Moment σ :=
  occurrences.foldl (step platform) moment

/-- Effect by effect, the work ends where running it at once ends. -/
theorem run_worked (platform : Platform σ) {moment : Moment σ} {assembler : Assembler}
    {after : World σ} (ran : moment.work.run platform moment.world = (.ok assembler, after)) :
    ∃ effects, moment.run platform (List.replicate effects .worked) =
      { moment with world := after, work := .done assembler } := by
  obtain ⟨world, work, signatures⟩ := moment
  induction work generalizing world with
  | done value =>
      cases ran
      exact ⟨0, rfl⟩
  | stop overflow => cases ran
  | perform effect next inductive_hypothesis =>
      obtain ⟨effects, finished⟩ := inductive_hypothesis _ _ ran
      exact ⟨effects + 1, finished⟩

end Moment

/-! ### What is durable -/

/-- Readers see what the first view showed, and beyond that nothing that was not saved. -/
structure View.IsDurable (first view : View) (saved : List Checkpoint) : Prop where
  hashes : ∀ number hash, view.hashOf number = some hash →
    IsSaved saved number hash ∨
      number.toNat < first.chain.height ∧ first.hashOf number = some hash
  newest : view.chain = first.chain ∧ view.seed = first.seed ∨
    ∃ number hash, first.chain.height ≤ number.toNat ∧ view.chain.lastNumber = some number ∧
      view.lastHash = some hash ∧ IsSaved saved number hash

namespace View.IsDurable

variable {first view shown : View} {saved : List Checkpoint}

theorem refl (view : View) : view.IsDurable view [] where
  hashes := by
    intro number hash answer
    right
    constructor
    · by_contra above
      rw [View.hashOf, Chain.hash_of_above (Nat.le_of_not_lt above)] at answer
      contradiction
    · exact answer
  newest := .inl ⟨rfl, rfl⟩

theorem append (durable : first.IsDurable view saved) (more : List Checkpoint) :
    first.IsDurable view (saved ++ more) where
  hashes := by
    intro number hash answer
    rcases durable.hashes number hash answer with isSaved | earlier
    · exact .inl (isSaved.append more)
    · exact .inr earlier
  newest := by
    rcases durable.newest with same | ⟨number, hash, reached, last, newest, isSaved⟩
    · exact .inl same
    · exact .inr ⟨number, hash, reached, last, newest, isSaved.append more⟩

theorem height (durable : first.IsDurable view saved) :
    first.chain.height ≤ view.chain.height := by
  rcases durable.newest with ⟨same, _⟩ | ⟨number, hash, reached, last, _⟩
  · rw [same]
  · have height : view.chain.height = number.toNat + 1 := by simp only [Chain.height, last]
    omega

theorem shows (durable : first.IsDurable view saved) (shows : view.Shows saved shown) :
    first.IsDurable shown saved := by
  cases shows with
  | same chain seed =>
      constructor
      · intro number hash answer
        rw [View.hashOf, chain] at answer
        exact durable.hashes number hash answer
      · rcases durable.newest with ⟨sameChain, sameSeed⟩ | later
        · exact .inl ⟨chain.trans sameChain, seed.trans sameSeed⟩
        · right
          rw [View.lastHash, chain]
          exact later
  | next number hash next isSaved chain =>
      have reached := durable.height
      rw [← Chain.next_number_height next] at reached
      constructor
      · intro other found answer
        rw [View.hashOf, chain] at answer
        by_cases same : other = number
        · rw [same, Chain.hash_of_extended] at answer
          cases answer
          exact .inl (same ▸ isSaved)
        · exact durable.hashes other found (Chain.hash_of_extended_other next same answer)
      · right
        refine ⟨number, hash, reached, ?_, ?_, isSaved⟩
        · rw [chain]
          rfl
        · rw [View.lastHash, chain]
          exact view.chain.last_hash_extended number hash

end View.IsDurable

/-- What is visible, unproven or asked for was saved, and the work left to do keeps it so. -/
structure Moment.IsDurable {σ : Type} (first : View) (moment : Moment (Journal σ)) : Prop where
  shown : first.IsDurable moment.world.view (saves moment.world.platform.calls)
  unproven : ∀ block ∈ moment.world.unproven.blocks,
    IsSaved (saves moment.world.platform.calls) block.number block.hash
  requested : ∀ hash ∈ moment.world.requests,
    ∃ number, IsSaved (saves moment.world.platform.calls) number hash
  careful : moment.work.IsCareful (fun _ _ _ => True) moment.world.view
    (saves moment.world.platform.calls)
  quiet : ∀ script ∈ moment.signatures, script.IsQuiet

namespace Moment

variable {σ : Type} {platform : Platform σ} {first : View} {moment : Moment (Journal σ)}

theorem durable_fresh (assembler : Assembler) (view : View) (state : σ) :
    (Moment.fresh assembler view ⟨[], state⟩).IsDurable view where
  shown := .refl view
  unproven := fun block pending => by cases pending
  requested := fun hash asked => by cases asked
  careful := trivial
  quiet := fun script member => by cases member

theorem saves_step (platform : Platform σ) (moment : Moment (Journal σ))
    (occurrence : Occurrence) :
    saves moment.world.platform.calls <+:
      saves (moment.step platform.journaled occurrence).world.platform.calls := by
  cases occurrence with
  | signed signature => exact List.prefix_rfl
  | called demand =>
      simp only [Moment.step]
      split <;> exact List.prefix_rfl
  | worked =>
      simp only [Moment.step]
      split
      · rw [World.answer_saves]
        exact List.prefix_append _ _
      · exact List.prefix_rfl
      · exact List.prefix_rfl
  | applied index =>
      simp only [Moment.step]
      split
      · rw [World.answer_saves]
        exact List.prefix_append _ _
      · exact List.prefix_rfl

/-- What was saved stays saved. -/
theorem saves_run (platform : Platform σ) (moment : Moment (Journal σ))
    (occurrences : List Occurrence) :
    saves moment.world.platform.calls <+:
      saves (moment.run platform.journaled occurrences).world.platform.calls := by
  induction occurrences generalizing moment with
  | nil => exact List.prefix_rfl
  | cons occurrence later inductive_hypothesis =>
      exact (moment.saves_step platform occurrence).trans (inductive_hypothesis _)

theorem demand_careful (assembler : Assembler) (demand : Demand) (view : View)
    (saved : List Checkpoint) :
    (demand.work assembler).IsCareful (fun _ _ _ => True) view saved := by
  cases demand with
  | startRound round =>
      exact (Assembler.start_round_careful view saved assembler round).bind
        fun _ _ _ _ => trivial
  | writeItem item =>
      exact (Assembler.write_item_careful view saved assembler item).bind fun _ _ _ _ => trivial
  | endRound round =>
      exact (Assembler.end_round_careful view saved assembler round).bind fun _ _ _ _ => trivial

/-- A careful effect leaves everything durable, in the world that it leads to. -/
theorem IsDurable.answered (platform : Platform σ) (durable : moment.IsDurable first)
    {effect : Effect}
    (careful : effect.IsCareful moment.world.view (saves moment.world.platform.calls)) :
    let after := (moment.world.answer platform.journaled effect).2
    first.IsDurable after.view (saves after.platform.calls) ∧
      (∀ block ∈ after.unproven.blocks,
        IsSaved (saves after.platform.calls) block.number block.hash) ∧
      ∀ hash ∈ after.requests, ∃ number, IsSaved (saves after.platform.calls) number hash := by
  intro after
  have saved : saves after.platform.calls = _ := moment.world.answer_saves platform effect
  have view : after.view = _ := moment.world.answer_view platform effect
  rw [saved, view]
  refine ⟨?_, ?_, ?_⟩
  · apply View.IsDurable.append
    cases effect with
    | writeView shown => exact durable.shown.shows careful
    | _ => exact durable.shown
  · intro block pending
    apply IsSaved.append
    rcases moment.world.answer_unproven platform effect pending with earlier | rfl
    · exact durable.unproven block earlier
    · exact careful
  · intro hash asked
    rcases moment.world.answer_requests platform effect asked with earlier | rfl
    · obtain ⟨number, isSaved⟩ := durable.requested hash earlier
      exact ⟨number, isSaved.append _⟩
    · obtain ⟨number, isSaved⟩ := careful
      exact ⟨number, isSaved.append _⟩

theorem IsDurable.step (durable : moment.IsDurable first) (occurrence : Occurrence) :
    (moment.step platform.journaled occurrence).IsDurable first := by
  cases occurrence with
  | called demand =>
      simp only [Moment.step]
      split
      · rename_i assembler work
        exact { durable with careful := demand_careful assembler demand _ _ }
      · exact durable
      · exact durable
  | worked =>
      simp only [Moment.step]
      split
      · rename_i effect next work
        have careful := durable.careful
        rw [work] at careful
        obtain ⟨shown, unproven, requested⟩ := durable.answered platform careful.1
        have onward := careful.2 _ (moment.world.answer_fits platform effect)
        rw [← moment.world.answer_view platform, ← moment.world.answer_saves platform] at onward
        exact ⟨shown, unproven, requested, onward, durable.quiet⟩
      · exact durable
      · exact durable
  | signed signature =>
      refine { durable with quiet := ?_ }
      intro script member
      rcases List.mem_append.mp member with earlier | same
      · exact durable.quiet script earlier
      · rw [List.mem_singleton.mp same]
        exact Ledger.apply_signature_quiet _ _
  | applied index =>
      simp only [Moment.step]
      split
      · rename_i effect next found
        have quiet := durable.quiet _ (List.mem_of_getElem? found)
        obtain ⟨shown, unproven, requested⟩ := durable.answered platform (quiet.1.careful _)
        refine ⟨shown, unproven, requested, ?_, ?_⟩
        · rw [World.answer_view, World.answer_saves, quiet.1.shown, quiet.1.saved, List.append_nil]
          exact durable.careful
        · intro script member
          rcases List.mem_or_eq_of_mem_set member with earlier | rfl
          · exact durable.quiet script earlier
          · exact quiet.2 _
      · exact durable

theorem IsDurable.run (durable : moment.IsDurable first) (occurrences : List Occurrence) :
    (moment.run platform.journaled occurrences).IsDurable first := by
  induction occurrences generalizing moment with
  | nil => exact durable
  | cons occurrence later inductive_hypothesis =>
      exact inductive_hypothesis (durable.step occurrence)

/-- A block comes into view in one step, and was saved before that step. -/
theorem IsDurable.shows_step (durable : moment.IsDurable first) (occurrence : Occurrence) :
    moment.world.view.Shows (saves moment.world.platform.calls)
      (moment.step platform.journaled occurrence).world.view := by
  cases occurrence with
  | called demand =>
      simp only [Moment.step]
      split <;> exact .same rfl rfl
  | worked =>
      simp only [Moment.step]
      split
      · rename_i effect next work
        have careful := durable.careful
        rw [work] at careful
        rw [World.answer_view]
        cases effect with
        | writeView shown => exact careful.1
        | _ => exact .same rfl rfl
      · exact .same rfl rfl
      · exact .same rfl rfl
  | signed signature => exact .same rfl rfl
  | applied index =>
      simp only [Moment.step]
      split
      · rename_i effect next found
        have quiet := durable.quiet _ (List.mem_of_getElem? found)
        rw [World.answer_view, quiet.1.shown]
        exact .same rfl rfl
      · exact .same rfl rfl

/-- Durable before visible. Between any two effects of a stream, whatever was answered: a hash that
readers find is the hash of a saved block or was there from the start; the last hash and a seed are
visible together with a saved block, once the first one was closed; signatures are asked for hashes
of saved blocks; and what is or was unproven is saved. No step brings into view more than the next
block, which was saved before. -/
theorem durable_before_visible {settings : StreamSettings} {startup : Startup}
    {assembler : Assembler} {first : View}
    (started : Assembler.start settings startup = .ok (assembler, first)) (platform : Platform σ)
    (state : σ) (earlier later : List Occurrence) :
    let before := (Moment.fresh assembler first ⟨[], state⟩).run platform.journaled earlier
    let now := before.run platform.journaled later
    let saved := saves now.world.platform.calls
    (∀ number hash, now.world.view.hashOf number = some hash →
      IsSaved saved number hash ∨
        number.toNat < first.chain.height ∧ first.hashOf number = some hash) ∧
    (∀ hash, now.world.view.lastHash = some hash →
      now.world.view.chain = first.chain ∨
        ∃ number, first.chain.height ≤ number.toNat ∧
          now.world.view.chain.lastNumber = some number ∧ IsSaved saved number hash) ∧
    (∀ seed, now.world.view.seed = some seed →
      ∃ number hash, first.chain.height ≤ number.toNat ∧
        now.world.view.chain.lastNumber = some number ∧
        now.world.view.lastHash = some hash ∧ IsSaved saved number hash) ∧
    (∀ hash ∈ now.world.requests, ∃ number, IsSaved saved number hash) ∧
    (∀ block ∈ before.world.unproven.blocks ++ now.world.unproven.blocks,
      IsSaved saved block.number block.hash) ∧
    ∀ occurrence, now.world.view.Shows saved
      (now.step platform.journaled occurrence).world.view := by
  intro before now saved
  have durable_before : before.IsDurable first := (durable_fresh assembler first state).run earlier
  have durable_now : now.IsDurable first := durable_before.run later
  have unseeded : first.seed = none := by
    rw [(Assembler.start_ok started).2.2.2]
    rfl
  refine ⟨durable_now.shown.hashes, ?_, ?_, durable_now.requested, ?_, durable_now.shows_step⟩
  · intro hash answer
    rcases durable_now.shown.newest with ⟨same, _⟩ | ⟨number, found, reached, last, newest, isSaved⟩
    · exact .inl same
    · rw [newest, Option.some.injEq] at answer
      exact .inr ⟨number, reached, last, answer ▸ isSaved⟩
  · intro seed exposed
    rcases durable_now.shown.newest with ⟨_, same⟩ | later
    · rw [exposed, unseeded] at same
      contradiction
    · exact later
  · intro block pending
    rcases List.mem_append.mp pending with was | is
    · obtain ⟨more, onward⟩ := before.saves_run platform later
      have isSaved := (durable_before.unproven block was).append more
      rw [onward] at isSaved
      exact isSaved
    · exact durable_now.unproven block is

/-- A stream that resumes after one block, with a full history of output roots. -/
def fourRoots : Checkpoint := ⟨some 0, none, List.replicate 4 .zero, [.zero]⟩

def resumed : View :=
  ⟨Chain.start fourRoots (some (.resume .zero)), .ofHistory fourRoots.outputRoots, none⟩

/-- Up to the moment when readers see the next block and the ledger does not. -/
def untilShown : List Occurrence :=
  let round : Round := ⟨1, ⟨1, 0⟩, false, []⟩
  [.called (.startRound round)] ++ List.replicate 9 .worked ++
    [.called (.endRound round)] ++ List.replicate 5 .worked

theorem first_block_durable_before_visible :
    let now := (Moment.fresh ⟨.default, .idle, none⟩ resumed
      ⟨[], Depot.empty .log (.memory none)⟩).run Depot.platform.journaled untilShown
    Assembler.start .default (.resume fourRoots .zero) = .ok (⟨.default, .idle, none⟩, resumed) ∧
      now.world.view.seed = some Digest.zero ∧ now.world.requests = [] ∧
      ∃ number hash, resumed.chain.height ≤ number.toNat ∧
        now.world.view.chain.lastNumber = some number ∧ now.world.view.lastHash = some hash ∧
        IsSaved (saves now.world.platform.calls) number hash := by
  intro now
  have started : Assembler.start .default (.resume fourRoots .zero) =
      .ok (⟨.default, .idle, none⟩, resumed) := rfl
  have seed : now.world.view.seed = some Digest.zero := by decide +kernel
  have visible := durable_before_visible started Depot.platform
    (Depot.empty .log (.memory none)) untilShown []
  exact ⟨started, seed, by decide +kernel, visible.2.2.1 Digest.zero seed⟩

end Moment
end ProvenBlocks
