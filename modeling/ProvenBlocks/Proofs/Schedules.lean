import ProvenBlocks.Proofs.Session
import ProvenBlocks.Proofs.Writers

/-!
Signatures and production. Two runs that make the same calls of consensus, with signatures coming
at other times or not at all, produce the same blocks as long as the producer's own calls on
writers and on the stored checkpoint go the same way. A script that hands over one block at most,
and the next one of its chain, is answered alike by both ledgers, whatever each of them has drained.
-/

namespace ProvenBlocks

/-! ### What a script hands over -/

namespace Effect

/-- Only a block of the given number is handed over, and nothing is taken from the ledger. -/
def HandsOver (number : Option UInt64) : Effect → Prop
  | .enqueue block => number = some block.number
  | .resolve _ => False
  | _ => True

/-- The number of the block that may still be handed over after the effect. -/
def remaining (number : Option UInt64) : Effect → Option UInt64
  | .enqueue _ => none
  | _ => number

end Effect

namespace Script

variable {α β : Type} {number : Option UInt64} {script : Script α} {following : α → Script β}

/-- Whatever it is answered, the script hands over at most the block of the given number. -/
def HandsOver (number : Option UInt64) : Script α → Prop
  | .done _ | .stop _ => True
  | .perform effect next => effect.HandsOver number ∧
      ∀ answer, (next answer).HandsOver (effect.remaining number)

theorem hands_over_ask {effect : Effect} {following : effect.Answer → Script α}
    (head : effect.HandsOver number)
    (onward : ∀ answer, (following answer).HandsOver (effect.remaining number)) :
    (ask effect >>= following).HandsOver number := ⟨head, onward⟩

theorem HandsOver.nothing_more (nothing : script.HandsOver none) : script.HandsOver number := by
  induction script with
  | done value => trivial
  | stop overflow => trivial
  | perform effect next inductive_hypothesis =>
      obtain ⟨head, onward⟩ := nothing
      cases effect with
      | enqueue block => cases head
      | resolve signed => exact head.elim
      | _ => exact ⟨trivial, fun answer => inductive_hypothesis answer (onward answer)⟩

theorem HandsOver.bind_quiet (first : script.HandsOver none)
    (onward : ∀ value, (following value).HandsOver number) :
    (script >>= following).HandsOver number := by
  induction script with
  | done value => exact onward value
  | stop overflow => trivial
  | perform effect next inductive_hypothesis =>
      obtain ⟨head, rest⟩ := first
      cases effect with
      | enqueue block => cases head
      | resolve signed => exact head.elim
      | _ => exact ⟨trivial, fun answer => inductive_hypothesis answer (rest answer)⟩

theorem HandsOver.bind (first : script.HandsOver number)
    (onward : ∀ value, (following value).HandsOver none) :
    (script >>= following).HandsOver number := by
  induction script generalizing number with
  | done value => exact (onward value).nothing_more
  | stop overflow => trivial
  | perform effect next inductive_hypothesis =>
      exact ⟨first.1, fun answer => inductive_hypothesis answer (first.2 answer)⟩

end Script

/-! ### Scripts of the assembler -/

namespace Assembler

theorem append_item_hands_over (block : OpenBlock) (item : Item) :
    (appendItem block item).HandsOver none := by
  refine ⟨trivial, ?_⟩
  rintro (fault | _)
  · trivial
  dsimp only
  rcases item.root with _ | _ | _
  · exact ⟨trivial, fun _ => trivial⟩
  · exact ⟨trivial, fun _ => trivial⟩
  · exact ⟨trivial, fun _ => ⟨trivial, fun _ => ⟨trivial, fun _ => trivial⟩⟩⟩

theorem halt_hands_over {α : Type} (assembler : Assembler) (error : StreamError) :
    (assembler.halt (α := α) error).HandsOver none :=
  ⟨trivial, fun _ => ⟨trivial, fun _ => trivial⟩⟩

theorem open_block_hands_over (settings : StreamSettings) (round : Round) :
    (openBlock settings round).HandsOver none := by
  refine Script.hands_over_ask trivial fun view => ?_
  rcases view.chain.prior with _ | previousHash
  · trivial
  rcases view.chain.nextNumber with overflow | number
  · trivial
  refine ⟨trivial, ?_⟩
  rintro (fault | writer)
  · trivial
  refine ⟨trivial, ?_⟩
  rintro (fault | _)
  · exact ⟨trivial, fun _ => trivial⟩
  apply (append_item_hands_over _ _).bind
  rintro (error | block)
  · exact ⟨trivial, fun _ => trivial⟩
  · exact ⟨trivial, fun _ => ⟨trivial, fun _ => ⟨trivial, fun _ => trivial⟩⟩⟩

theorem start_round_hands_over (assembler : Assembler) (round : Round) :
    (assembler.startRound round).HandsOver none := by
  unfold startRound
  rcases assembler.checkWritable with error | _
  · trivial
  cases assembler.phase with
  | assembling block => trivial
  | idle | frozen | halted =>
      refine Script.hands_over_ask trivial fun view => ?_
      split
      · apply (open_block_hands_over _ _).bind
        rintro (error | block)
        · exact halt_hands_over assembler error
        · trivial
      · trivial

theorem write_item_hands_over (assembler : Assembler) (item : Item) :
    (assembler.writeItem item).HandsOver none := by
  unfold writeItem
  rcases assembler.checkWritable with error | _
  · trivial
  dsimp only
  split
  · trivial
  cases assembler.phase with
  | assembling block =>
      apply (append_item_hands_over _ _).bind
      rintro (error | written)
      · apply (halt_hands_over assembler error).bind
        exact fun halted => ⟨trivial, fun _ => trivial⟩
      · trivial
  | idle | frozen | halted => trivial

theorem submit_hands_over {number : Option UInt64} {block : UnprovenBlock WriterId}
    (same : number = some block.number) : (Ledger.submit block).HandsOver number := by
  refine ⟨same, ?_⟩
  rintro ((error | overflow) | _)
  · exact ⟨trivial, fun _ => trivial⟩
  · trivial
  · exact ⟨trivial, fun _ => ⟨trivial, fun _ => trivial⟩⟩

theorem finish_block_hands_over {number : Option UInt64} {block : OpenBlock}
    (same : number = some block.number) (round : Round) :
    (finishBlock block round).HandsOver number := by
  refine Script.hands_over_ask trivial fun view => ?_
  dsimp only
  rcases view.chain.nextHash (Chain.steps block.input.value view.outputs.finish.1) with
    error | hash
  · exact ⟨trivial, fun _ => trivial⟩
  dsimp only
  rcases view.chain.append block.number hash with (error | overflow) | ⟨evicted, chain⟩
  · exact ⟨trivial, fun _ => trivial⟩
  · trivial
  apply (append_item_hands_over _ _).bind_quiet
  rintro (error | written)
  · exact ⟨trivial, fun _ => trivial⟩
  refine ⟨trivial, ?_⟩
  rintro (error | _)
  · exact ⟨trivial, fun _ => trivial⟩
  refine ⟨trivial, fun _ => ?_⟩
  apply (submit_hands_over same).bind
  rintro (error | _)
  · trivial
  · exact ⟨trivial, fun _ => trivial⟩

/-- The last round of a block hands over this block. -/
theorem end_round_hands_over (assembler : Assembler) (round : Round) :
    (assembler.endRound round).HandsOver assembler.openNumber := by
  unfold endRound openNumber
  rcases assembler.checkWritable with error | _
  · trivial
  cases assembler.phase with
  | assembling block =>
      dsimp only
      rcases added : addRound block with overflow | counted
      · trivial
      have same : some block.number = some counted.number := by rw [(add_round_ok added).1]
      change Script.HandsOver (some block.number) (if _ then _ else _)
      split
      · trivial
      · apply (finish_block_hands_over same round).bind
        rintro (error | closed)
        · exact halt_hands_over assembler error
        · trivial
  | idle | frozen | halted => trivial

end Assembler

/-! ### Runs with the same outcomes -/

/-- As long as two runs have made the same calls, the next call of either, if it is for the same,
goes the same way. -/
def SameOutcomes (first second : List Call) : Prop :=
  ∀ common call other rest later, first = common ++ call :: rest →
    second = common ++ other :: later → call.effect = other.effect → call = other

theorem SameOutcomes.cons {call other : Call} {rest later : List Call}
    (outcomes : SameOutcomes (call :: rest) (other :: later)) (same : call.effect = other.effect) :
    call = other ∧ SameOutcomes rest later := by
  have head := outcomes [] call other rest later rfl rfl same
  refine ⟨head, ?_⟩
  intro common next different more others first second
  exact outcomes (call :: common) next different more others (by rw [first]; rfl)
    (by rw [second, head]; rfl)

theorem SameOutcomes.refl (calls : List Call) : SameOutcomes calls calls := by
  intro common call other rest later first second _
  have same := List.append_cancel_left (first.symm.trans second)
  exact (List.cons.inj same).1

/-- What two runs share: what readers see and what was asked for. -/
structure World.Matches {σ τ : Type} (world : World (Journal σ)) (other : World (Journal τ)) :
    Prop where
  view : world.view = other.view
  requests : world.requests = other.requests

/-- The ledger takes over a block of the given number, if there is one. -/
def UnprovenRun.Takes (run : UnprovenRun WriterId) (number : Option UInt64) : Prop :=
  ∀ block, number = some block.number → ∃ next, run.push block = .ok next

theorem UnprovenRun.takes_nothing (run : UnprovenRun WriterId) : run.Takes none := by
  intro block missing
  cases missing

section

variable {α σ τ : Type} {platform : Platform σ} {second : Platform τ}
  {world after : World (Journal σ)} {other later : World (Journal τ)} {number : Option UInt64}
  {rest more : List Call}

/-- One effect is answered alike. -/
theorem World.Matches.answered {effect : Effect} {answer reply : effect.Answer}
    (matched : world.Matches other) (hands : effect.HandsOver number)
    (takes : world.unproven.Takes number) (takesToo : other.unproven.Takes number)
    (first : world.answer platform.journaled effect = (answer, after))
    (likewise : other.answer second.journaled effect = (reply, later))
    (outcomes : SameOutcomes (effect.noted answer ++ rest) (effect.noted reply ++ more)) :
    answer = reply ∧ after.Matches later ∧ after.unproven.Takes (effect.remaining number) ∧
      later.unproven.Takes (effect.remaining number) ∧ SameOutcomes rest more := by
  obtain ⟨view, requests⟩ := matched
  cases effect with
  | createWriter | openBlock | writeItem | closeBlock | save =>
      obtain ⟨same, onward⟩ := outcomes.cons rfl
      cases first
      cases likewise
      simp only [Call.create.injEq, Call.openBlock.injEq, Call.writeItem.injEq,
        Call.closeBlock.injEq, Call.save.injEq, true_and] at same
      exact ⟨same, ⟨view, requests⟩, takes, takesToo, onward⟩
  | release =>
      cases first
      cases likewise
      exact ⟨rfl, ⟨view, requests⟩, takes, takesToo, (outcomes.cons rfl).2⟩
  | requestSignature hash =>
      cases first
      cases likewise
      exact ⟨rfl, ⟨view, by rw [requests]⟩, takes, takesToo, outcomes⟩
  | readView =>
      cases first
      cases likewise
      exact ⟨view, ⟨view, requests⟩, takes, takesToo, outcomes⟩
  | writeView shown =>
      cases first
      cases likewise
      exact ⟨rfl, ⟨rfl, requests⟩, takes, takesToo, outcomes⟩
  | count counter =>
      cases first
      cases likewise
      exact ⟨rfl, ⟨view, requests⟩, takes, takesToo, outcomes⟩
  | resolve signed => exact hands.elim
  | enqueue block =>
      -- Both ledgers take over the block, so neither answers with an error.
      obtain ⟨next, pushed⟩ := takes block hands
      obtain ⟨nextToo, pushedToo⟩ := takesToo block hands
      simp only [World.answer, pushed] at first
      simp only [World.answer, pushedToo] at likewise
      cases first
      cases likewise
      exact ⟨rfl, ⟨view, requests⟩, next.takes_nothing, nextToo.takes_nothing, outcomes⟩

/-- A whole script is answered alike, so it makes the same calls and comes to the same end. -/
theorem World.Matches.ran {script : Script α} (matched : world.Matches other)
    (hands : script.HandsOver number) (takes : world.unproven.Takes number)
    (takesToo : other.unproven.Takes number)
    (outcomes : SameOutcomes (script.calls platform world ++ rest)
      (script.calls second other ++ more)) :
    script.calls platform world = script.calls second other ∧
      (script.run platform.journaled world).1 = (script.run second.journaled other).1 ∧
      (script.run platform.journaled world).2.Matches (script.run second.journaled other).2 ∧
      SameOutcomes rest more := by
  induction script generalizing world other number with
  | done value => exact ⟨rfl, rfl, matched, outcomes⟩
  | stop overflow => exact ⟨rfl, rfl, matched, outcomes⟩
  | perform effect next inductive_hypothesis =>
      simp only [Script.calls, Script.run] at outcomes ⊢
      rcases first : world.answer platform.journaled effect with ⟨answer, after⟩
      rcases likewise : other.answer second.journaled effect with ⟨reply, later⟩
      rw [first, likewise, List.append_assoc, List.append_assoc] at outcomes
      obtain ⟨rfl, matched, takes, takesToo, onward⟩ :=
        matched.answered hands.1 takes takesToo first likewise outcomes
      obtain ⟨calls, answers, ends, further⟩ :=
        inductive_hypothesis answer matched (hands.2 answer) takes takesToo onward
      exact ⟨by rw [calls], answers, ends, further⟩

end

/-! ### Schedules -/

def Operation.demand? : Operation → Option Demand
  | .startRound round => some (.startRound round)
  | .writeItem item => some (.writeItem item)
  | .endRound round => some (.endRound round)
  | .sign _ => none

/-- The calls of consensus in a schedule, without its signatures. -/
def demands (operations : List Operation) : List Demand :=
  operations.filterMap Operation.demand?

/-- Two schedules that differ in their signatures only. -/
inductive SameDemands : List Operation → List Operation → Prop
  | nil : SameDemands [] []
  | first (signature : Signature) {first second : List Operation}
      (rest : SameDemands first second) : SameDemands (.sign signature :: first) second
  | second (signature : Signature) {first second : List Operation}
      (rest : SameDemands first second) : SameDemands first (.sign signature :: second)
  | both (demand : Demand) {first second : List Operation} (rest : SameDemands first second) :
      SameDemands (demand.operation :: first) (demand.operation :: second)

theorem Operation.demand_cases (operation : Operation) :
    (∃ signature, operation = .sign signature) ∨
      ∃ demand : Demand, operation = demand.operation ∧ operation.demand? = some demand := by
  cases operation with
  | startRound round => exact .inr ⟨.startRound round, rfl, rfl⟩
  | writeItem item => exact .inr ⟨.writeItem item, rfl, rfl⟩
  | endRound round => exact .inr ⟨.endRound round, rfl, rfl⟩
  | sign signature => exact .inl ⟨signature, rfl⟩

theorem same_demands {first second : List Operation} (same : demands first = demands second) :
    SameDemands first second := by
  induction first generalizing second with
  | nil =>
      induction second with
      | nil => exact .nil
      | cons operation later inductive_hypothesis =>
          rcases operation.demand_cases with ⟨signature, rfl⟩ | ⟨demand, _, demanded⟩
          · exact .second signature (inductive_hypothesis same)
          · simp [demands, demanded] at same
  | cons operation rest inductive_hypothesis =>
      rcases operation.demand_cases with ⟨signature, rfl⟩ | ⟨demand, rfl, demanded⟩
      · exact .first signature (inductive_hypothesis same)
      -- The signatures of the second schedule that come before the same demand.
      induction second with
      | nil => simp [demands, demanded] at same
      | cons other later skipping =>
          rcases other.demand_cases with ⟨signature, rfl⟩ | ⟨second, rfl, demandedToo⟩
          · exact .second signature (skipping same)
          · simp only [demands, List.filterMap_cons, demanded, demandedToo, List.cons.injEq] at same
            rw [same.1]
            exact .both second (inductive_hypothesis same.2)

/-! ### What is written -/

/-- The written form begins with the tag of a proof. -/
def isProofText (content : Bytes) : Bool :=
  ((Codec.variant 6).encode (Fin.last 5)).isPrefixOf content

theorem is_proof_text_iff (item : Item) :
    isProofText item.encode = true ↔ ∃ proof, item = .proof proof := by
  cases item with
  | proof proof =>
      refine ⟨fun _ => ⟨proof, rfl⟩, fun _ => ?_⟩
      exact List.isPrefixOf_iff_prefix.mpr (List.prefix_append _ _)
  | header content | transaction content | result content | stateChanges content
  | recordFile content =>
      refine ⟨fun tagged => ?_, fun ⟨proof, same⟩ => by cases same⟩
      cases tagged

def withoutProofs (contents : List Bytes) : List Bytes :=
  contents.filter fun content => !isProofText content

/-- A call that writes a proof, or lets its writer go. -/
def Call.IsOfProof : Call → Prop
  | .writeItem _ content _ => isProofText content = true
  | .closeBlock _ _ | .release _ => True
  | .create _ | .openBlock _ _ _ | .save _ _ => False

/-- The same checkpoints were saved, and the same writers opened for the same blocks have taken in
the same, apart from proofs. -/
structure SameProduction (first second : List Call) : Prop where
  saves : saves first = saves second
  openings : ∀ writer, openings first writer = openings second writer
  contents : ∀ writer,
    withoutProofs (contents first writer) = withoutProofs (contents second writer)

namespace SameProduction

variable {first second : List Call}

theorem symm (same : SameProduction first second) : SameProduction second first :=
  ⟨same.saves.symm, fun writer => (same.openings writer).symm,
    fun writer => (same.contents writer).symm⟩

theorem append (same : SameProduction first second) (more : List Call) :
    SameProduction (first ++ more) (second ++ more) where
  saves := by rw [saves_append, saves_append, same.saves]
  openings := fun writer => by rw [openings_append, openings_append, same.openings]
  contents := by
    intro writer
    rw [contents_append, contents_append, withoutProofs, List.filter_append, withoutProofs,
      List.filter_append]
    exact congrArg (· ++ _) (same.contents writer)

/-- Proofs leave what is produced as it is. -/
theorem proofs_first (same : SameProduction first second) {proofs : List Call}
    (ofProofs : ∀ call ∈ proofs, call.IsOfProof) : SameProduction (first ++ proofs) second where
  saves := by
    have nothing : ProvenBlocks.saves proofs = [] := by
      apply List.filterMap_eq_nil_iff.mpr
      intro call member
      have ofProof := ofProofs call member
      cases call with
      | save checkpoint answer => exact ofProof.elim
      | _ => rfl
    rw [saves_append, nothing, List.append_nil, same.saves]
  openings := by
    intro writer
    have nothing : ProvenBlocks.openings proofs writer = [] := by
      apply List.filterMap_eq_nil_iff.mpr
      intro call member
      have ofProof := ofProofs call member
      cases call with
      | openBlock other number answer => exact ofProof.elim
      | _ => rfl
    rw [openings_append, nothing, List.append_nil, same.openings]
  contents := by
    intro writer
    have nothing : withoutProofs (ProvenBlocks.contents proofs writer) = [] := by
      apply List.filter_eq_nil_iff.mpr
      intro content member
      obtain ⟨call, called, taken⟩ := List.mem_filterMap.mp member
      have ofProof := ofProofs call called
      unfold Call.content? at taken
      split at taken
      · split at taken
        · cases taken
          simpa [Call.IsOfProof] using ofProof
        · cases taken
      · cases taken
    rw [contents_append, withoutProofs, List.filter_append]
    rw [withoutProofs] at nothing
    rw [nothing, List.append_nil]
    exact same.contents writer

end SameProduction

theorem ProofNoted.of_proof {signature : Bytes} {resolved : ResolvedBlock WriterId}
    {answer : Except StreamError Unit} {calls : List Call}
    (noted : ProofNoted signature resolved answer calls) : ∀ call ∈ calls, call.IsOfProof := by
  have text : isProofText (Ledger.proofItem signature resolved).encode = true :=
    (is_proof_text_iff _).mpr ⟨_, rfl⟩
  intro call member
  cases noted <;> simp only [List.mem_cons, List.not_mem_nil, or_false] at member
  · rcases member with rfl | rfl
    · exact text
    · trivial
  · rcases member with rfl | rfl | rfl
    · exact text
    · trivial
    · trivial
  · rcases member with rfl | rfl | rfl
    · exact text
    · trivial
    · trivial

theorem ProofsNoted.of_proofs {signature : Bytes} {blocks : List (ResolvedBlock WriterId)}
    {written : List FinalizedBlock × Option StreamError} {calls : List Call}
    (noted : ProofsNoted signature blocks written calls) : ∀ call ∈ calls, call.IsOfProof := by
  induction noted with
  | nil => simp
  | failed head tail inductive_hypothesis | written head tail inductive_hypothesis =>
      intro call member
      rcases List.mem_append.mp member with inHead | inTail
      · exact head.of_proof call inHead
      · exact inductive_hypothesis call inTail

/-! ### Two sessions -/

/-- What one call of consensus has brought about: its answer, the calls that it made, the signatures
that it asked for, and what readers see after it. -/
structure Report where
  answer : List Event
  calls : List Call
  requests : List Digest
  view : View
  stopped : Option Overflow

namespace Session

variable {σ τ : Type} {platform : Platform σ} {second : Platform τ}

def report (before after : Session (Journal σ)) : Report where
  answer := after.history.drop before.history.length
  calls := after.world.platform.calls.drop before.world.platform.calls.length
  requests := after.world.requests.drop before.world.requests.length
  view := after.world.view
  stopped := after.stopped

/-- The reports of the calls of consensus in a schedule. -/
def reports (platform : Platform σ) (session : Session (Journal σ)) : List Operation → List Report
  | [] => []
  | operation :: later =>
      let after := session.step platform.journaled operation
      match operation.demand? with
      | none => after.reports platform later
      | some _ => session.report after :: after.reports platform later

/-- Two sessions that differ at most in what signatures have done. -/
structure Alike (session : Session (Journal σ)) (other : Session (Journal τ)) : Prop where
  assembler : session.assembler = other.assembler
  world : session.world.Matches other.world
  stopped : session.stopped = other.stopped
  coherent : session.assembler.Coherent session.world
  coherentToo : other.assembler.Coherent other.world
  production : SameProduction session.world.platform.calls other.world.platform.calls

variable {session : Session (Journal σ)} {other : Session (Journal τ)}

theorem Alike.symm (alike : session.Alike other) : other.Alike session where
  assembler := alike.assembler.symm
  world := ⟨alike.world.view.symm, alike.world.requests.symm⟩
  stopped := alike.stopped.symm
  coherent := alike.coherentToo
  coherentToo := alike.coherent
  production := alike.production.symm

/-- A signature changes neither what readers see nor what is produced. -/
theorem Alike.signed (alike : session.Alike other) (platform : Platform σ)
    (signature : Signature) :
    (session.step platform.journaled (.sign signature)).Alike other := by
  have coherent := session.coherent_step platform.journaled alike.coherent (.sign signature)
  obtain ⟨answer, after, applied, stepped⟩ :=
    session.signed_of_step platform.journaled signature
  obtain ⟨written, calls, noted, _, extended, view, _⟩ := journaled_applied applied
  have requests : after.requests = session.world.requests := by cases applied <;> rfl
  rw [stepped] at coherent ⊢
  refine ⟨alike.assembler, ⟨view.trans alike.world.view, requests.trans alike.world.requests⟩,
    alike.stopped, coherent, alike.coherentToo, ?_⟩
  rw [extended.calls]
  exact alike.production.proofs_first noted.of_proofs

/-- What a call of consensus does is a script that hands over at most the open block. -/
theorem demand_assembled (demand : Demand) (assembler : Assembler) :
    ∃ (β : Type) (work : Script (Except StreamError β × Assembler))
      (event : Except StreamError β → Event), work.HandsOver assembler.openNumber ∧
      ∀ {σ : Type} (platform : Platform σ) (session : Session σ), session.assembler = assembler →
        session.step platform demand.operation = session.assemble platform work event := by
  cases demand with
  | startRound round =>
      refine ⟨_, assembler.startRound round, .roundStarted round,
        (assembler.start_round_hands_over round).nothing_more, ?_⟩
      rintro σ platform session rfl
      rfl
  | writeItem item =>
      refine ⟨_, assembler.writeItem item, .itemWritten item,
        (assembler.write_item_hands_over item).nothing_more, ?_⟩
      rintro σ platform session rfl
      rfl
  | endRound round =>
      refine ⟨_, assembler.endRound round, .roundEnded round,
        assembler.end_round_hands_over round, ?_⟩
      rintro σ platform session rfl
      rfl

/-- The ledger takes over the open block. -/
theorem takes_open_block {assembler : Assembler} {world : World (Journal σ)}
    (coherent : assembler.Coherent world) : world.unproven.Takes assembler.openNumber := by
  intro block number
  simp only [Assembler.openNumber] at number
  split at number
  · rename_i openBlock phase
    rw [Option.some.injEq] at number
    have next := (coherent.follows openBlock phase).next
    rw [number] at next
    exact ⟨_, Assembler.push_next coherent.linked next⟩
  · cases number

variable {β : Type} {work : Script (Except StreamError β × Assembler)}
  {event : Except StreamError β → Event} {number : Option UInt64} {rest more : List Call}

theorem report_calls (running : session.stopped = none) :
    (session.report (session.assemble platform.journaled work event)).calls =
      work.calls platform session.world := by
  have ran : (session.assemble platform.journaled work event).world =
      (work.run platform.journaled session.world).2 := by
    simp only [assemble, running]
    split <;> rename_i result <;> rw [result]
  rw [report, ran, work.run_noted, List.drop_left]

/-- An assembler that was stopped brings about nothing more. -/
theorem assemble_stopped {overflow : Overflow} (stopped : session.stopped = some overflow) :
    session.assemble platform.journaled work event = session := by
  simp only [assemble, stopped]

theorem report_self (session : Session (Journal σ)) :
    session.report session = ⟨[], [], [], session.world.view, session.stopped⟩ := by
  simp only [report, List.drop_length]

/-- A script that hands over at most the next block brings about the same in both sessions. -/
theorem Alike.assembled (alike : session.Alike other)
    (hands : work.HandsOver number) (takes : session.world.unproven.Takes number)
    (takesToo : other.world.unproven.Takes number)
    (coherent : (session.assemble platform.journaled work event).assembler.Coherent
      (session.assemble platform.journaled work event).world)
    (coherentToo : (other.assemble second.journaled work event).assembler.Coherent
      (other.assemble second.journaled work event).world)
    (outcomes : SameOutcomes
      ((session.report (session.assemble platform.journaled work event)).calls ++ rest)
      ((other.report (other.assemble second.journaled work event)).calls ++ more)) :
    session.report (session.assemble platform.journaled work event) =
        other.report (other.assemble second.journaled work event) ∧
      (session.assemble platform.journaled work event).Alike
        (other.assemble second.journaled work event) ∧ SameOutcomes rest more := by
  rcases running : session.stopped with _ | overflow
  · have runningToo : other.stopped = none := alike.stopped ▸ running
    rw [report_calls running, report_calls runningToo] at outcomes
    obtain ⟨calls, answers, ends, onward⟩ := alike.world.ran hands takes takesToo outcomes
    have noted := work.run_noted platform session.world
    have notedToo := work.run_noted second other.world
    have requests := alike.world.requests
    simp only [assemble, running, runningToo] at coherent coherentToo ⊢
    generalize work.run platform.journaled session.world = ran at *
    generalize work.run second.journaled other.world = ranToo at *
    obtain ⟨answer, after⟩ := ran
    obtain ⟨reply, later⟩ := ranToo
    obtain rfl : answer = reply := answers
    dsimp only at noted notedToo ends
    have production : SameProduction after.platform.calls later.platform.calls := by
      rw [noted, notedToo, calls]
      exact alike.production.append _
    rcases answer with overflow | ⟨answer, assembler⟩
    · refine ⟨?_, ⟨alike.assembler, ends, rfl, coherent, coherentToo, production⟩, onward⟩
      simp only [report, noted, notedToo, calls, List.drop_left, List.drop_length, ends.view,
        ends.requests, requests]
    · refine ⟨?_, ⟨rfl, ends, rfl, coherent, coherentToo, production⟩, onward⟩
      simp only [report, noted, notedToo, calls, List.drop_left, ends.view, ends.requests,
        requests]
  · have stoppedToo : other.stopped = some overflow := alike.stopped ▸ running
    rw [assemble_stopped running, assemble_stopped stoppedToo, report_self, report_self]
      at outcomes ⊢
    rw [running, stoppedToo, alike.world.view]
    exact ⟨rfl, alike, outcomes⟩

/-- A call of consensus brings about the same in both sessions. -/
theorem Alike.demanded (alike : session.Alike other) (demand : Demand)
    (outcomes : SameOutcomes
      ((session.report (session.step platform.journaled demand.operation)).calls ++ rest)
      ((other.report (other.step second.journaled demand.operation)).calls ++ more)) :
    session.report (session.step platform.journaled demand.operation) =
        other.report (other.step second.journaled demand.operation) ∧
      (session.step platform.journaled demand.operation).Alike
        (other.step second.journaled demand.operation) ∧ SameOutcomes rest more := by
  have coherent := session.coherent_step platform.journaled alike.coherent demand.operation
  have coherentToo := other.coherent_step second.journaled alike.coherentToo demand.operation
  have takesToo := takes_open_block alike.coherentToo
  obtain ⟨β, work, event, hands, assembled⟩ := demand_assembled demand session.assembler
  rw [assembled platform.journaled session rfl] at coherent outcomes ⊢
  rw [assembled second.journaled other alike.assembler.symm] at coherentToo outcomes ⊢
  rw [← alike.assembler] at takesToo
  exact alike.assembled hands (takes_open_block alike.coherent) takesToo coherent coherentToo
    outcomes

theorem Alike.run {first later : List Operation} (alike : session.Alike other)
    (schedules : SameDemands first later)
    (outcomes : SameOutcomes ((session.reports platform first).flatMap Report.calls)
      ((other.reports second later).flatMap Report.calls)) :
    session.reports platform first = other.reports second later ∧
      (session.run platform.journaled first).Alike (other.run second.journaled later) := by
  induction schedules generalizing session other with
  | nil => exact ⟨rfl, alike⟩
  | first signature rest inductive_hypothesis =>
      exact inductive_hypothesis (alike.signed platform signature) outcomes
  | second signature rest inductive_hypothesis =>
      exact inductive_hypothesis (alike.symm.signed second signature).symm outcomes
  | both demand rest inductive_hypothesis =>
      have demanded : demand.operation.demand? = some demand := by cases demand <;> rfl
      simp only [reports, demanded, List.flatMap_cons] at outcomes ⊢
      obtain ⟨reported, onward, outcomes⟩ := alike.demanded demand outcomes
      obtain ⟨reports, ends⟩ := inductive_hypothesis onward outcomes
      exact ⟨by rw [reported, reports], ends⟩

/-- Signatures do not influence production. Two runs from one start, over any writers and stored
checkpoints, whose schedules make the same calls of consensus and differ in their signatures as they
may: if the calls that consensus brings about on writers and on the stored checkpoint go the same
way, then each of them is answered the same, makes the same calls, asks for the same signatures and
lets readers see the same; in the end the same checkpoints are saved, and every writer was opened for
the same blocks and has taken in the same apart from proofs. -/
theorem signatures_leave_production_alone {settings : StreamSettings} {startup : Startup}
    {assembler : Assembler} {view : View}
    (started : Assembler.start settings startup = .ok (assembler, view)) (platform : Platform σ)
    (second : Platform τ) (state : σ) (otherState : τ) {first later : List Operation}
    (same : demands first = demands later)
    (outcomes : SameOutcomes
      (((fresh assembler view ⟨[], state⟩).reports platform first).flatMap Report.calls)
      (((fresh assembler view ⟨[], otherState⟩).reports second later).flatMap Report.calls)) :
    let one := (fresh assembler view ⟨[], state⟩).run platform.journaled first
    let two := (fresh assembler view ⟨[], otherState⟩).run second.journaled later
    (fresh assembler view ⟨[], state⟩).reports platform first =
        (fresh assembler view ⟨[], otherState⟩).reports second later ∧
      one.world.view = two.world.view ∧ one.world.requests = two.world.requests ∧
      SameProduction one.world.platform.calls two.world.platform.calls := by
  have idle := Assembler.start_idle started
  have alike : (fresh assembler view (⟨[], state⟩ : Journal σ)).Alike
      (fresh assembler view (⟨[], otherState⟩ : Journal τ)) :=
    ⟨rfl, ⟨rfl, rfl⟩, rfl, Assembler.coherent_fresh idle view _,
      Assembler.coherent_fresh idle view _, ⟨rfl, fun _ => rfl, fun _ => rfl⟩⟩
  obtain ⟨reported, ends⟩ := alike.run (same_demands same) outcomes
  exact ⟨reported, ends.world.view, ends.world.requests, ends.production⟩

/-- A stream whose writers fail to close their blocks. -/
def unclosing : Session (Journal Depot) :=
  fresh ⟨.default, .idle, none⟩ ⟨Chain.start .empty (some .genesis), .empty, none⟩
    ⟨[], (Depot.empty .log (.memory none)).setFailing (some .closeBlock)⟩

/-- Two blocks of one round each, with signatures between and after them. -/
def twoBlocks (between after : List Operation) : List Operation :=
  [.startRound ⟨1, ⟨1, 0⟩, false, []⟩, .endRound ⟨1, ⟨1, 0⟩, false, []⟩] ++ between ++
    [.startRound ⟨2, ⟨2, 0⟩, false, []⟩, .endRound ⟨2, ⟨2, 0⟩, false, []⟩] ++ after

/-- The signature of the first block, before the second one is opened. -/
def signedEarly : List Operation :=
  twoBlocks [.sign (.standIn (Digest.zero.linkAll [.zero, .zero]))] []

def signedByNobody : List Operation := twoBlocks [] [.sign ⟨.zero, []⟩]

/-- A proof that fails is nothing to the producer. -/
theorem failed_proof_leaves_production_alone :
    (unclosing.run Depot.platform.journaled signedEarly).world.platform.calls.any Call.isFailure ∧
      (unclosing.run Depot.platform.journaled signedEarly).world.unproven.blocks.length = 1 ∧
      (unclosing.run Depot.platform.journaled signedByNobody).world.unproven.blocks.length = 2 ∧
      unclosing.reports Depot.platform signedEarly =
        unclosing.reports Depot.platform signedByNobody := by
  have started : Assembler.start .default .genesis =
      .ok (⟨.default, .idle, none⟩, ⟨Chain.start .empty (some .genesis), .empty, none⟩) := rfl
  have calls : (unclosing.reports Depot.platform signedEarly).flatMap Report.calls =
      (unclosing.reports Depot.platform signedByNobody).flatMap Report.calls := by
    decide +kernel
  have outcomes : SameOutcomes
      ((unclosing.reports Depot.platform signedEarly).flatMap Report.calls)
      ((unclosing.reports Depot.platform signedByNobody).flatMap Report.calls) := by
    rw [calls]
    exact SameOutcomes.refl _
  have same : demands signedEarly = demands signedByNobody := rfl
  have left := signatures_leave_production_alone started Depot.platform Depot.platform _ _ same
    outcomes
  exact ⟨by decide +kernel, by decide +kernel, by decide +kernel, left.1⟩

end Session

end ProvenBlocks
