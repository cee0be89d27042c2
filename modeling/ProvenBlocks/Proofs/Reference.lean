import ProvenBlocks.Proofs.Calm
import ProvenBlocks.Proofs.Grouping
import ProvenBlocks.Proofs.Queries

/-!
Production does what its groups say. An assembler stands on a footing, and has gathered the rounds
of a group that is not complete yet. As long as no call fails, a round either joins the group or
completes it, and then the block of the group is answered, saved and handed over.
-/

namespace ProvenBlocks

namespace Chain

theorem next_number_of_height {chain : Chain} (more : chain.height < 2 ^ 64) :
    chain.nextNumber = .ok (UInt64.ofNat chain.height) := by
  rcases lastNumber : chain.lastNumber with _ | last
  · simp only [nextNumber, height, lastNumber]
    rfl
  · simp only [height, lastNumber] at more ⊢
    simp only [nextNumber, lastNumber, checked_succ_ok (show last.toNat < 2 ^ 64 - 1 by omega)]
    rfl

end Chain

theorem OpenBlock.counted_rounds_to_nat {block : OpenBlock}
    (fits : block.rounds.toNat + 1 < 2 ^ 32) :
    block.counted.rounds.toNat = block.rounds.toNat + 1 := by
  rw [counted_rounds, UInt32.toNat_add]
  exact Nat.mod_eq_of_lt fits

/-! ### What readers see -/

namespace Footing

/-- Readers see what the blocks so far have left. -/
structure IsShown (footing : Footing) (view : View) : Prop where
  number : view.chain.height = footing.number
  previous : view.chain.prior = some footing.previous
  hashWindow : view.chain.history.capacity = hashHistorySize
  hashes : view.chain.history.Holds footing.hashes
  rootWindow : view.outputs.history.capacity = OutputRoots.historySize
  roots : view.outputs.history.Holds footing.roots
  seed : view.outputs.seed = footing.seed

variable {footing : Footing} {view shown : View}

/-- Only the chain, the root history and the seed count. -/
theorem IsShown.same (isShown : footing.IsShown view) (chain : shown.chain = view.chain)
    (history : shown.outputs.history = view.outputs.history)
    (seed : shown.outputs.seed = view.outputs.seed) : footing.IsShown shown where
  number := by rw [chain, isShown.number]
  previous := by rw [chain, isShown.previous]
  hashWindow := by rw [chain, isShown.hashWindow]
  hashes := by rw [chain]; exact isShown.hashes
  rootWindow := by rw [history, isShown.rootWindow]
  roots := by rw [history]; exact isShown.roots
  seed := by rw [seed, isShown.seed]

theorem IsShown.opened (isShown : footing.IsShown view) (number : UInt64) :
    footing.IsShown (view.opened number) := isShown.same rfl rfl rfl

theorem IsShown.add (isShown : footing.IsShown view) (item : Item) :
    footing.IsShown (view.add item) := by
  unfold View.add
  split
  · exact isShown.same rfl rfl rfl
  · exact isShown
  · exact isShown

/-- The block is the one that the group makes. -/
structure Matches (footing : Footing) (group : List Round) (view : View) (block : OpenBlock) :
    Prop where
  number : block.number.toNat = footing.number
  hash : block.hash view = (footing.block group).hash
  outputRoot : view.outputs.running.value = (footing.block group).outputRoot

theorem IsShown.close (isShown : footing.IsShown view) {group : List Round} {block : OpenBlock}
    (matches_ : footing.Matches group view block) :
    (footing.after group).IsShown (view.close block) where
  number := by
    simp only [Chain.height, View.close_chain_lastNumber, matches_.number, after]
  previous := congrArg some matches_.hash
  hashWindow := (Window.push_capacity _ _).trans isShown.hashWindow
  hashes := by
    rw [View.close_chain_history, matches_.hash]
    exact isShown.hashes.push _
  rootWindow := (Window.push_capacity _ _).trans isShown.rootWindow
  roots := by
    simp only [View.close_outputs, OutputRoots.finish, matches_.outputRoot]
    exact isShown.roots.push _
  seed := by
    have evicted := isShown.roots.evicted (footing.block group).outputRoot
    rw [isShown.rootWindow] at evicted
    simp only [View.close_outputs, OutputRoots.finish, matches_.outputRoot, isShown.seed]
    exact evicted

/-- The checkpoint that is saved is the one of the group. -/
theorem IsShown.checkpoint (isShown : footing.IsShown view) {group : List Round}
    {block : OpenBlock} (matches_ : footing.Matches group view block)
    (number : block.number = (footing.block group).number)
    (time : block.time = (footing.block group).time) :
    block.checkpoint view = footing.checkpoint group := by
  have closed := isShown.close matches_
  have roots : (view.close block).outputs.trailing =
      (footing.after group).roots.rtake OutputRoots.historySize := by
    rw [← closed.rootWindow]
    exact closed.roots
  have hashes : (view.close block).chain.trailing =
      (footing.after group).hashes.rtake hashHistorySize := by
    rw [← closed.hashWindow]
    exact closed.hashes
  rw [OpenBlock.checkpoint, Footing.checkpoint, number, time, roots, hashes]

end Footing

/-! ### Rounds without a failed call -/

/-- Nothing was saved, asked for, handed over or taken from the ledger. -/
structure World.Keeps {σ : Type} (before after : World (Journal σ)) : Prop where
  saved : saves after.platform.calls = saves before.platform.calls
  requests : after.requests = before.requests
  unproven : after.unproven = before.unproven

theorem World.Keeps.trans {σ : Type} {before middle after : World (Journal σ)}
    (first : before.Keeps middle) (later : middle.Keeps after) : before.Keeps after :=
  ⟨later.saved.trans first.saved, later.requests.trans first.requests,
    later.unproven.trans first.unproven⟩

namespace Footing

variable {σ : Type}

/-- Readers see the footing, and assembler and world are in line. -/
structure Carries (footing : Footing) (settings : StreamSettings) (assembler : Assembler)
    (world : World (Journal σ)) : Prop where
  settings : assembler.settings = settings
  coherent : assembler.Coherent world
  shown : footing.IsShown world.view

/-- Rounds and items that the open block has taken in, and the time that it began at. -/
structure Gathers (footing : Footing) (settings : StreamSettings) (rounds : Nat)
    (taken : List Item) (time : Instant) (block : OpenBlock) (assembler : Assembler)
    (world : World (Journal σ)) : Prop
    extends footing.Carries settings assembler world where
  phase : assembler.phase = .assembling block
  time : block.time = time
  rounds : block.rounds.toNat = rounds
  items : block.items = 1 + taken.length
  input : block.input.value = rootOf .input taken
  output : world.view.outputs.running.value = rootOf .output taken

/-- What the complete groups have left: their checkpoints saved, a signature asked for each of their
blocks, and the blocks handed over to the ledger. -/
structure Produces (footing : Footing) (groups : List (List Round))
    (before after : World (Journal σ)) : Prop where
  saved : saves after.platform.calls =
    saves before.platform.calls ++ footing.checkpoints groups
  requests : after.requests = before.requests ++ (footing.blocks groups).map ClosedBlock.hash
  unproven : after.unproven.blocks.map (fun block => (block.number, block.hash)) =
    before.unproven.blocks.map (fun block => (block.number, block.hash)) ++
      (footing.blocks groups).map fun block => (block.number, block.hash)
  shown : (groups.foldl Footing.after footing).IsShown after.view

/-- Between two rounds: no block is open, or one with the rounds that have begun its group. -/
inductive Stands (footing : Footing) (settings : StreamSettings) (assembler : Assembler)
    (world : World (Journal σ)) : List Round → Prop
  | idle (carries : footing.Carries settings assembler world) (phase : assembler.phase = .idle) :
      Stands footing settings assembler world []
  | assembling (first : Round) (later : List Round) (block : OpenBlock)
      (gathers : footing.Gathers settings (later.length + 1)
        ((first :: later).flatMap Round.items) first.time block assembler world) :
      Stands footing settings assembler world (first :: later)

section

variable {platform : Platform σ} {footing : Footing} {settings : StreamSettings}
  {assembler : Assembler} {world : World (Journal σ)} {begun : List Round}

/-- Unless no number is left, a round finds its block open or opens it. -/
theorem Stands.startRound (stands : footing.Stands settings assembler world begun)
    (more : footing.number < 2 ^ 64) (round : Round)
    (faultless : ((assembler.startRound round).run platform.journaled world).2.platform.Faultless) :
    ∃ block next after,
      (assembler.startRound round).run platform.journaled world = (.ok (.ok (), next), after) ∧
      world.Keeps after ∧
      footing.Gathers settings begun.length (begun.flatMap Round.items)
        (((begun ++ [round]).head?.map Round.time).getD ⟨0, 0⟩) block next after := by
  have outcome := Assembler.start_round_outcome platform.journaled assembler round world
  generalize (assembler.startRound round).run platform.journaled world = result
    at outcome faultless ⊢
  cases stands with
  | idle carries phase =>
      have writable : assembler.checkWritable = .ok () := by
        simp only [Assembler.checkWritable, phase]
      cases outcome with
      | refused error ended =>
          rw [writable] at ended
          contradiction
      | continued block open_ => cases phase.symm.trans open_
      | unanchored idle prior => cases carries.shown.previous.symm.trans prior
      | overflow overflow idle next =>
          rw [Chain.next_number_of_height (carries.shown.number ▸ more)] at next
          contradiction
      | halted number previousHash fault state idle prior next left =>
          exact absurd left (Journal.Faultless.not_abandoned faultless)
      | opened number previousHash writer created opened written idle prior next create start
          write =>
          have calls := ((Journal.Extends.of_create create).trans (.of_open_block start)).trans
            (.of_write_item write)
          have coherent := Assembler.coherent_of_moved carries.coherent
            (.opened round number previousHash writer created opened written idle prior next
              create start write)
          refine ⟨_, _, _, rfl, ⟨?_, rfl, rfl⟩,
            ⟨carries.settings, coherent, carries.shown.opened number⟩, rfl, rfl, rfl, rfl, rfl, rfl⟩
          rw [World.showOpenBlock_platform, World.setPlatform_platform, calls.calls, saves_append]
          exact List.append_nil _
  | assembling first later block gathers =>
      have phase := gathers.phase
      have writable : assembler.checkWritable = .ok () := by
        simp only [Assembler.checkWritable, phase]
      cases outcome with
      | refused error ended =>
          rw [writable] at ended
          contradiction
      | continued other same => exact ⟨block, _, _, rfl, ⟨rfl, rfl, rfl⟩, gathers⟩
      | unanchored idle => cases phase.symm.trans idle
      | overflow overflow idle => cases phase.symm.trans idle
      | halted number previousHash fault state idle => cases phase.symm.trans idle
      | opened number previousHash writer created opened written idle =>
          cases phase.symm.trans idle

variable {rounds : Nat} {taken : List Item} {time : Instant} {block : OpenBlock}

theorem Gathers.writeItem
    (gathers : footing.Gathers settings rounds taken time block assembler world) {item : Item}
    (unmanaged : item.isManaged = false)
    (faultless : ((assembler.writeItem item).run platform.journaled world).2.platform.Faultless) :
    ∃ fed next after,
      (assembler.writeItem item).run platform.journaled world = (.ok (.ok (), next), after) ∧
      world.Keeps after ∧
      footing.Gathers settings rounds (taken ++ [item]) time fed next after := by
  have phase := gathers.phase
  have writable : assembler.checkWritable = .ok () := by
    simp only [Assembler.checkWritable, phase]
  have outcome := Assembler.write_item_outcome platform.journaled assembler item world
  generalize (assembler.writeItem item).run platform.journaled world = result
    at outcome faultless ⊢
  cases outcome with
  | refused error ended =>
      rw [writable] at ended
      contradiction
  | managed writable managed =>
      rw [unmanaged] at managed
      contradiction
  | idle idle unmanaged => cases phase.symm.trans idle
  | halted other fault state same unmanaged call =>
      have calls := (Journal.Extends.of_write_item call).trans (.of_release state other.writer)
      have failed := faultless.no_failure calls (List.mem_cons_self ..)
      contradiction
  | written other state same unmanaged call =>
      cases same.symm.trans phase
      have calls := Journal.Extends.of_write_item call
      have coherent := Assembler.coherent_of_moved gathers.coherent
        (.written block item state phase unmanaged call)
      refine ⟨block.add item, _, _, rfl, ⟨?_, rfl, rfl⟩, ?_⟩
      · rw [World.addItem_platform, World.setPlatform_platform, calls.calls, saves_append]
        exact List.append_nil _
      · constructor
        · exact ⟨gathers.settings, coherent, gathers.shown.add item⟩
        · rfl
        · rw [OpenBlock.add_time, gathers.time]
        · rw [OpenBlock.add_rounds, gathers.rounds]
        · rw [OpenBlock.add_items, gathers.items, List.length_append, List.length_singleton]
          omega
        · exact input_root_add gathers.input item
        · exact output_root_add gathers.output item

theorem Gathers.writeItems
    (gathers : footing.Gathers settings rounds taken time block assembler world)
    {items : List Item} (unmanaged : ∀ item ∈ items, item.isManaged = false)
    (faultless : ((assembler.writeItems items).run platform.journaled world).2.platform.Faultless) :
    ∃ fed next after,
      (assembler.writeItems items).run platform.journaled world = (.ok (.ok (), next), after) ∧
      world.Keeps after ∧
      footing.Gathers settings rounds (taken ++ items) time fed next after := by
  induction items generalizing taken block assembler world with
  | nil =>
      rw [List.append_nil]
      exact ⟨block, assembler, world, rfl, ⟨rfl, rfl, rfl⟩, gathers⟩
  | cons item later inductive_hypothesis =>
      rw [Assembler.writeItems] at faultless ⊢
      obtain ⟨fed, next, after, ran, kept, one⟩ :=
        gathers.writeItem (unmanaged item (List.mem_cons_self ..)) faultless.first
      rw [Script.run_bind, ran] at faultless ⊢
      obtain ⟨full, last, final, finished, still, all⟩ := inductive_hypothesis one
        (fun other member => unmanaged other (List.mem_cons_of_mem _ member)) faultless
      rw [List.append_assoc] at all
      exact ⟨full, last, final, finished, kept.trans still, all⟩

theorem Gathers.number
    (gathers : footing.Gathers settings rounds taken time block assembler world) :
    block.number.toNat = footing.number := by
  rw [← gathers.shown.number]
  exact Chain.next_number_height (gathers.coherent.follows block gathers.phase).next

theorem Gathers.previous
    (gathers : footing.Gathers settings rounds taken time block assembler world) :
    block.previousHash = footing.previous := by
  have prior := (gathers.coherent.follows block gathers.phase).prior
  rw [gathers.shown.previous, Option.some.injEq] at prior
  exact prior.symm

/-- The block that a round completes is the one that its group makes. -/
theorem Gathers.closed {round : Round}
    (gathers : footing.Gathers settings begun.length ((begun ++ [round]).flatMap Round.items)
      (((begun ++ [round]).head?.map Round.time).getD ⟨0, 0⟩) block assembler world) :
    block.counted.closed world.view round = footing.block (begun ++ [round]) := by
  have number : block.number = UInt64.ofNat footing.number := by
    rw [← gathers.number, UInt64.ofNat_toNat]
  have counted : block.rounds + 1 = UInt32.ofNat (begun ++ [round]).length := by
    rw [List.length_append, List.length_singleton, ← gathers.rounds]
    rfl
  have items : block.items + 1 = 2 + ((begun ++ [round]).flatMap Round.items).length := by
    rw [gathers.items]
    omega
  have hash : block.counted.hash world.view =
      (footing.previous.link (rootOf .input ((begun ++ [round]).flatMap Round.items))).link
        (rootOf .output ((begun ++ [round]).flatMap Round.items)) := by
    rw [← gathers.input, ← gathers.output, ← gathers.previous]
    rfl
  simp only [OpenBlock.closed, Footing.block, OpenBlock.counted_number,
    OpenBlock.counted_previousHash, OpenBlock.counted_time, OpenBlock.counted_input,
    OpenBlock.counted_rounds, OpenBlock.counted_items, number, counted, items, hash,
    gathers.previous, gathers.time, gathers.input, gathers.output, List.getLast?_concat,
    Option.any_some]

theorem Produces.none (shown : footing.IsShown world.view) : footing.Produces [] world world where
  saved := (List.append_nil _).symm
  requests := (List.append_nil _).symm
  unproven := (List.append_nil _).symm
  shown := shown

theorem Produces.kept {groups : List (List Round)} {before middle after : World (Journal σ)}
    (kept : before.Keeps middle) (produces : footing.Produces groups middle after) :
    footing.Produces groups before after where
  saved := by rw [produces.saved, kept.saved]
  requests := by rw [produces.requests, kept.requests]
  unproven := by rw [produces.unproven, kept.unproven]
  shown := produces.shown

theorem Produces.cons {group : List Round} {groups : List (List Round)}
    {before middle after : World (Journal σ)} (first : footing.Produces [group] before middle)
    (rest : (footing.after group).Produces groups middle after) :
    footing.Produces (group :: groups) before after where
  saved := by
    rw [rest.saved, first.saved, List.append_assoc]
    rfl
  requests := by
    rw [rest.requests, first.requests, List.append_assoc]
    rfl
  unproven := by
    rw [rest.unproven, first.unproven, List.append_assoc]
    rfl
  shown := rest.shown

/-- Closing the block leaves what its group should. -/
theorem Gathers.produces {round : Round}
    (gathers : footing.Gathers settings begun.length ((begun ++ [round]).flatMap Round.items)
      (((begun ++ [round]).head?.map Round.time).getD ⟨0, 0⟩) block assembler world)
    {written saved : Journal σ}
    (write : platform.journaled.writeItem block.counted.writer
      (Assembler.boundary round (block.counted.checkpoint world.view)).encode world.platform =
        (.ok (), written))
    (save : platform.journaled.save (block.counted.checkpoint world.view) written =
      (.ok (), saved)) :
    footing.Produces [begun ++ [round]] world ((world.setPlatform saved).close block.counted) := by
  have closed := gathers.closed
  have matches_ : footing.Matches (begun ++ [round]) world.view block.counted :=
    ⟨gathers.number, congrArg ClosedBlock.hash closed, congrArg ClosedBlock.outputRoot closed⟩
  have checkpoint := gathers.shown.checkpoint matches_ (congrArg ClosedBlock.number closed)
    (congrArg ClosedBlock.time closed)
  have calls := (Journal.Extends.of_write_item write).trans (.of_save save)
  constructor
  · rw [World.close_platform, World.setPlatform_platform, calls.calls, saves_append, checkpoint]
    rfl
  · rw [World.close_requests]
    exact congrArg (fun hash => world.requests ++ [hash]) matches_.hash
  · rw [World.close_unproven_blocks, List.map_append]
    have same : (block.counted.number, block.counted.hash world.view) =
        ((footing.block (begun ++ [round])).number, (footing.block (begun ++ [round])).hash) := by
      rw [← closed]
      rfl
    exact congrArg (fun entry => _ ++ [entry]) same
  · exact gathers.shown.close matches_

/-- A round that ends early joins the group. -/
theorem Gathers.counted (platform : Platform σ) {round : Round}
    (gathers : footing.Gathers settings begun.length ((begun ++ [round]).flatMap Round.items)
      (((begun ++ [round]).head?.map Round.time).getD ⟨0, 0⟩) block assembler world)
    (added : Assembler.addRound block = .ok block.counted)
    (early : block.counted.rounds < assembler.settings.roundsPerBlock ∧ ¬ round.freeze) :
    footing.Stands settings (assembler.withBlock block.counted) world (begun ++ [round]) := by
  have moved : Moved platform.journaled assembler world _ _ _ :=
    .counted round block _ gathers.phase added early
  have coherent := Assembler.coherent_of_moved gathers.coherent moved
  have rounds : block.counted.rounds.toNat = begun.length + 1 := by
    rw [OpenBlock.counted_rounds_to_nat (Assembler.add_round_ok added).2, gathers.rounds]
  have joined : footing.Gathers settings (begun.length + 1)
      ((begun ++ [round]).flatMap Round.items)
      (((begun ++ [round]).head?.map Round.time).getD ⟨0, 0⟩) block.counted
      (assembler.withBlock block.counted) world :=
    ⟨⟨gathers.settings, coherent, gathers.shown⟩, rfl, gathers.time, rounds, gathers.items,
      gathers.input, gathers.output⟩
  rcases begun with _ | ⟨first, later⟩
  · exact .assembling round [] _ joined
  · have length : later.length + 1 + 1 = (later ++ [round]).length + 1 := by
      rw [List.length_append, List.length_singleton]
    rw [List.length_cons, length] at joined
    exact .assembling first (later ++ [round]) _ joined

/-- A round ends early or completes its group, and a freeze round ends production. -/
theorem Gathers.endRound {round : Round}
    (gathers : footing.Gathers settings begun.length ((begun ++ [round]).flatMap Round.items)
      (((begun ++ [round]).head?.map Round.time).getD ⟨0, 0⟩) block assembler world)
    (short : begun.length < settings.roundsPerBlock.toNat)
    (faultless : ((assembler.endRound round).run platform.journaled world).2.platform.Faultless) :
    (¬ ((begun ++ [round]).length = settings.roundsPerBlock.toNat ∨ round.freeze) ∧
      ∃ next, (assembler.endRound round).run platform.journaled world =
          (.ok (.ok none, next), world) ∧
        footing.Stands settings next world (begun ++ [round])) ∨
    (((begun ++ [round]).length = settings.roundsPerBlock.toNat ∨ round.freeze) ∧
      ∃ next after, (assembler.endRound round).run platform.journaled world =
          (.ok (.ok (some (footing.block (begun ++ [round]))), next), after) ∧
        footing.Produces [begun ++ [round]] world after ∧
        next.isFrozen = round.freeze ∧
        (round.freeze = false →
          (footing.after (begun ++ [round])).Stands settings next after [])) := by
  have phase := gathers.phase
  have writable : assembler.checkWritable = .ok () := by
    simp only [Assembler.checkWritable, phase]
  have bounded := settings.roundsPerBlock.toNat_lt
  have fits : block.rounds.toNat + 1 < 2 ^ 32 := by
    rw [gathers.rounds]
    omega
  have added : Assembler.addRound block = .ok block.counted := if_pos fits
  have counted : block.counted.rounds.toNat = begun.length + 1 := by
    rw [OpenBlock.counted_rounds_to_nat fits, gathers.rounds]
  have length : (begun ++ [round]).length = begun.length + 1 := by
    rw [List.length_append, List.length_singleton]
  have early_iff : (block.counted.rounds < assembler.settings.roundsPerBlock ∧ ¬ round.freeze) ↔
      ¬ ((begun ++ [round]).length = settings.roundsPerBlock.toNat ∨ round.freeze) := by
    rw [gathers.settings, UInt32.lt_iff_toNat_lt, not_or, counted, length]
    exact and_congr_left' (by omega)
  have outcome := Assembler.end_round_outcome platform.journaled gathers.coherent round
  generalize (assembler.endRound round).run platform.journaled world = result
    at outcome faultless ⊢
  cases outcome with
  | refused error ended =>
      rw [writable] at ended
      contradiction
  | idle idle => cases phase.symm.trans idle
  | overflow other overflow same refused =>
      cases same.symm.trans phase
      rw [added] at refused
      contradiction
  | continued other counted same added early =>
      cases same.symm.trans phase
      obtain ⟨rfl, _⟩ := Assembler.add_round_ok added
      exact .inl ⟨early_iff.mp early, _, rfl, gathers.counted platform added early⟩
  | halted other counted error after same added due finished =>
      cases same.symm.trans phase
      cases finished with
      | noBoundary fault state write =>
          have calls := (Journal.Extends.of_write_item write).trans
            (.of_release state counted.writer)
          have failed := faultless.no_failure calls (List.mem_cons_self ..)
          contradiction
      | notSaved error written saved write save =>
          have calls := (Journal.Extends.of_save save).trans (.of_release saved counted.writer)
          have failed := faultless.no_failure calls (List.mem_cons_self ..)
          contradiction
  | closed other counted closed after same added due finished =>
      cases same.symm.trans phase
      have same_block : counted = block.counted := (Assembler.add_round_ok added).1
      subst same_block
      cases finished with
      | closed written saved write save =>
          have coherent := Assembler.coherent_of_moved gathers.coherent
            (.closed round block block.counted written saved phase added due write save)
          have produces := gathers.produces write save
          rw [← gathers.closed]
          refine .inr ⟨not_not.mp (mt early_iff.mpr due), _, _, rfl, produces, ?_, ?_⟩
          · rcases freeze : round.freeze with _ | _ <;>
              simp [Assembler.isFrozen, Assembler.phaseAfter, freeze]
          · intro thawed
            have idle : Assembler.phaseAfter (block.counted.closed world.view round) = .idle :=
              if_neg (by simp [thawed])
            exact .idle ⟨gathers.settings, coherent, produces.shown⟩ idle

/-- A whole round joins the group or completes it. -/
theorem Stands.processRound (stands : footing.Stands settings assembler world begun)
    (short : begun.length < settings.roundsPerBlock.toNat) (more : footing.number < 2 ^ 64)
    {round : Round} (unmanaged : ∀ item ∈ round.items, item.isManaged = false)
    (faultless :
      ((assembler.processRound round).run platform.journaled world).2.platform.Faultless) :
    (¬ ((begun ++ [round]).length = settings.roundsPerBlock.toNat ∨ round.freeze) ∧
      ∃ next after, (assembler.processRound round).run platform.journaled world =
          (.ok (.ok none, next), after) ∧
        world.Keeps after ∧ footing.Stands settings next after (begun ++ [round])) ∨
    (((begun ++ [round]).length = settings.roundsPerBlock.toNat ∨ round.freeze) ∧
      ∃ next after, (assembler.processRound round).run platform.journaled world =
          (.ok (.ok (some (footing.block (begun ++ [round]))), next), after) ∧
        footing.Produces [begun ++ [round]] world after ∧
        next.isFrozen = round.freeze ∧
        (round.freeze = false →
          (footing.after (begun ++ [round])).Stands settings next after [])) := by
  unfold Assembler.processRound at faultless ⊢
  obtain ⟨block, started, begins, ran, opened, gathers⟩ :=
    stands.startRound more round faultless.first
  rw [Script.run_bind, ran] at faultless ⊢
  obtain ⟨fed, taken, fills, ran, written, gathers⟩ := gathers.writeItems unmanaged faultless.first
  have group : begun.flatMap Round.items ++ round.items =
      (begun ++ [round]).flatMap Round.items := by
    rw [List.flatMap_append, List.flatMap_singleton]
  rw [group] at gathers
  simp only [Script.run_bind, ran] at faultless ⊢
  have kept := opened.trans written
  rcases gathers.endRound short faultless with
    ⟨early, next, ran, joined⟩ | ⟨due, next, after, ran, produces, frozen, onward⟩
  · exact .inl ⟨early, next, fills, ran, kept, joined⟩
  · exact .inr ⟨due, next, after, ran, produces.kept kept, frozen, onward⟩

/-- With or without an open block, readers see the footing. -/
theorem Stands.carries (stands : footing.Stands settings assembler world begun) :
    footing.Carries settings assembler world := by
  cases stands with
  | idle carries phase => exact carries
  | assembling first later block gathers => exact gathers.toCarries

theorem Stands.thawed (stands : footing.Stands settings assembler world begun) :
    assembler.isFrozen = false := by
  cases stands with
  | idle carries phase => simp only [Assembler.isFrozen, phase]
  | assembling first later block gathers => simp only [Assembler.isFrozen, gathers.phase]

end
end Footing

/-! ### All rounds -/

/-- Rounds one after the other, with the answer to each. -/
def Assembler.processRounds (assembler : Assembler) :
    List Round → Script (List (Except StreamError (Option ClosedBlock)) × Assembler)
  | [] => return ([], assembler)
  | round :: later => do
      let (answer, next) ← assembler.processRound round
      let (answers, last) ← next.processRounds later
      return (answer :: answers, last)

section

variable {σ : Type} {platform : Platform σ} {footing : Footing} {settings : StreamSettings}
  {assembler : Assembler} {world : World (Journal σ)} {begun : List Round}

theorem thawed_later {round : Round} {later : List Round}
    (thawed : ∀ other ∈ (round :: later).dropLast, other.freeze = false) :
    ∀ other ∈ later.dropLast, other.freeze = false := by
  intro other member
  rcases later with _ | ⟨second, others⟩
  · cases member
  · exact thawed other (List.mem_cons_of_mem _ member)

/-- The answers and what is left behind are those of the groups. The rounds that have begun the
first group were answered before. -/
theorem Footing.Stands.processRounds (stands : footing.Stands settings assembler world begun)
    (short : begun.length < settings.roundsPerBlock.toNat) {rounds : List Round}
    (more : footing.number + (cut settings.roundsPerBlock.toNat begun rounds).1.length < 2 ^ 64)
    (unmanaged : ∀ round ∈ rounds, ∀ item ∈ round.items, item.isManaged = false)
    (thawed : ∀ round ∈ rounds.dropLast, round.freeze = false)
    (faultless :
      ((assembler.processRounds rounds).run platform.journaled world).2.platform.Faultless) :
    ∃ given last after,
      (assembler.processRounds rounds).run platform.journaled world =
        (.ok (given.map Except.ok, last), after) ∧
      List.replicate begun.length none ++ given =
        footing.allAnswers (cut settings.roundsPerBlock.toNat begun rounds).1 ++
          List.replicate (cut settings.roundsPerBlock.toNat begun rounds).2.length none ∧
      footing.Produces (cut settings.roundsPerBlock.toNat begun rounds).1 world after ∧
      last.isFrozen = rounds.any Round.freeze := by
  induction rounds generalizing footing assembler world begun with
  | nil =>
      have produces : footing.Produces [] world world := .none stands.carries.shown
      exact ⟨[], assembler, world, rfl, List.append_nil _, produces, stands.thawed⟩
  | cons round later inductive_hypothesis =>
      have fits : footing.number < 2 ^ 64 := by omega
      have later_unmanaged : ∀ other ∈ later, ∀ item ∈ other.items, item.isManaged = false :=
        fun other member => unmanaged other (List.mem_cons_of_mem _ member)
      have length : (begun ++ [round]).length = begun.length + 1 := by
        rw [List.length_append, List.length_singleton]
      unfold Assembler.processRounds at faultless ⊢
      rcases stands.processRound short fits (unmanaged round (List.mem_cons_self ..))
        faultless.first with
        ⟨early, next, after, ran, kept, joined⟩ |
        ⟨due, next, after, ran, produces, frozen, onward⟩
      · have joins : cut settings.roundsPerBlock.toNat begun (round :: later) =
            cut settings.roundsPerBlock.toNat (begun ++ [round]) later := if_neg early
        rw [not_or] at early
        rw [Script.run_bind, ran] at faultless ⊢
        rw [joins] at more ⊢
        obtain ⟨given, last, final, finished, answered, produces, frozen⟩ :=
          inductive_hypothesis joined (by omega) more later_unmanaged
            (thawed_later thawed) faultless.first
        simp only [Script.run_bind, finished, Script.run_pure]
        refine ⟨none :: given, last, final, rfl, ?_, produces.kept kept, ?_⟩
        · rw [← answered, length, List.replicate_succ', List.append_assoc]
          rfl
        · rw [frozen, List.any_cons, Bool.eq_false_iff.mpr early.2, Bool.false_or]
      · have completes : cut settings.roundsPerBlock.toNat begun (round :: later) =
            ((begun ++ [round]) :: (cut settings.roundsPerBlock.toNat [] later).1,
              (cut settings.roundsPerBlock.toNat [] later).2) := if_pos due
        have answers : footing.answers (begun ++ [round]) =
            List.replicate begun.length none ++ [some (footing.block (begun ++ [round]))] := by
          rw [Footing.answers, length, Nat.add_sub_cancel]
        rw [Script.run_bind, ran] at faultless ⊢
        rw [completes] at more ⊢
        rcases freeze : round.freeze with _ | _
        · rw [List.length_cons] at more
          obtain ⟨given, last, final, finished, answered, rest, last_frozen⟩ :=
            inductive_hypothesis (onward freeze) (Nat.zero_lt_of_lt short)
              (by simp only [Footing.after]; omega) later_unmanaged (thawed_later thawed)
              faultless.first
          simp only [Script.run_bind, finished, Script.run_pure]
          refine ⟨some (footing.block (begun ++ [round])) :: given, last, final, rfl, ?_,
            produces.cons rest, ?_⟩
          · rw [List.length_nil, List.replicate_zero, List.nil_append] at answered
            rw [answered, Footing.all_answers_cons, answers, List.append_assoc, List.append_assoc]
            rfl
          · rw [last_frozen, List.any_cons, freeze, Bool.false_or]
        · -- nothing follows a freeze round
          rcases later with _ | ⟨second, others⟩
          · refine ⟨[some (footing.block (begun ++ [round]))], next, after, rfl, ?_, produces, ?_⟩
            · rw [Footing.all_answers_cons, answers]
              exact ((List.append_nil _).trans (List.append_nil _)).symm
            · rw [frozen, freeze, List.any_cons, freeze, Bool.true_or]
          · have melted := thawed round (List.mem_cons_self ..)
            rw [freeze] at melted
            contradiction

theorem Footing.shown_at_start {startup : Startup} {view : View}
    (started : Assembler.start settings startup = .ok (assembler, view)) {previous : Digest}
    (prior : view.chain.prior = some previous) {number : UInt64}
    (next : view.chain.nextNumber = .ok number) :
    Footing.IsShown ⟨number.toNat, previous, view.outputs.trailing, view.chain.trailing⟩ view where
  number := (Chain.next_number_height next).symm
  previous := prior
  hashWindow := by
    rw [(Assembler.start_ok started).2.2.2]
    exact Chain.start_capacity _ _
  hashes := view.chain.history.holds_entries
  rootWindow := by
    rw [(Assembler.start_ok started).2.2.2]
    exact Window.of_list_capacity _ _
  roots := view.outputs.history.holds_entries
  seed := by
    rw [(Assembler.start_ok started).2.2.2]
    have bounded := (Window.ofList OutputRoots.historySize startup.checkpoint.outputRoots).bounded
    rw [Window.of_list_capacity] at bounded
    have fits : (OutputRoots.ofHistory startup.checkpoint.outputRoots).trailing.length -
        OutputRoots.historySize = 0 := Nat.sub_eq_zero_of_le bounded
    simp only [Footing.seed, List.rdrop, fits]
    rfl

/-- A view and a platform before any call. -/
def World.untouched {σ : Type} (view : View) (state : σ) : World (Journal σ) :=
  ⟨view, .empty, .zero, [], ⟨[], state⟩⟩

/-- Production equals its reference. From every start with a hash to build on, rounds that carry no
items of the stream itself, of which only the last one may be a freeze round, are answered with the
blocks of their groups; the checkpoints of the groups are saved, signatures are asked for, readers
see what the groups left, and the stream is frozen if the last round says so. This holds as long as
no call fails and no number is beyond the last one. -/
theorem production_equals_reference {startup : Startup} {view : View}
    (started : Assembler.start settings startup = .ok (assembler, view)) {previous : Digest}
    (prior : view.chain.prior = some previous) {number : UInt64}
    (next : view.chain.nextNumber = .ok number) (platform : Platform σ) (state : σ)
    {rounds : List Round}
    (more : number.toNat + (cut settings.roundsPerBlock.toNat [] rounds).1.length < 2 ^ 64)
    (unmanaged : ∀ round ∈ rounds, ∀ item ∈ round.items, item.isManaged = false)
    (thawed : ∀ round ∈ rounds.dropLast, round.freeze = false)
    (faultless : ((assembler.processRounds rounds).run platform.journaled
      (.untouched view state)).2.platform.Faultless) :
    let groups := (cut settings.roundsPerBlock.toNat [] rounds).1
    let left := (cut settings.roundsPerBlock.toNat [] rounds).2
    let footing : Footing :=
      ⟨number.toNat, previous, view.outputs.trailing, view.chain.trailing⟩
    IsCut settings.roundsPerBlock.toNat rounds groups left ∧
      ∃ last after,
        (assembler.processRounds rounds).run platform.journaled (.untouched view state) =
          (.ok ((footing.allAnswers groups ++ List.replicate left.length none).map Except.ok, last),
            after) ∧
        footing.Produces groups (.untouched view state) after ∧
        last.isFrozen = rounds.any Round.freeze := by
  intro groups left footing
  obtain ⟨allowed, _, fresh, _⟩ := Assembler.start_ok started
  have idle := Assembler.start_idle started
  have positive : 0 < settings.roundsPerBlock.toNat :=
    UInt32.lt_iff_toNat_lt.mp (StreamSettings.rounds_positive allowed)
  have stands : footing.Stands settings assembler (.untouched view state) [] :=
    .idle ⟨by rw [fresh], Assembler.coherent_fresh idle view _,
      Footing.shown_at_start started prior next⟩ idle
  obtain ⟨given, last, after, ran, answered, produces, frozen⟩ :=
    stands.processRounds positive more unmanaged thawed faultless
  rw [List.length_nil, List.replicate_zero, List.nil_append] at answered
  rw [answered] at ran
  exact ⟨cut_is_cut positive (List.forall_mem_nil _) rounds, last, after, ran, produces, frozen⟩

/-- Three rounds on a store in memory, two in a block. The last one is a freeze round, and ends its
block after one round. -/
theorem three_rounds_equal_reference :
    let settings : StreamSettings := { StreamSettings.default with roundsPerBlock := 2 }
    let genesis : View := ⟨Chain.start .empty (some .genesis), .empty, none⟩
    let assembler : Assembler := ⟨settings, .idle, none⟩
    let depot := Depot.empty .log (.memory none)
    let footing : Footing := ⟨0, .zero, [], []⟩
    let items : List Item := [.transaction ⟨[1]⟩, .result ⟨.success, ⟨1, 0⟩, 1⟩]
    let rounds : List Round :=
      [⟨1, ⟨1, 0⟩, false, items⟩, ⟨2, ⟨2, 0⟩, false, []⟩, ⟨3, ⟨3, 0⟩, true, items⟩]
    let groups := (cut 2 [] rounds).1
    let left := (cut 2 [] rounds).2
    Assembler.start settings .genesis = .ok (assembler, genesis) ∧
      genesis.chain.prior = some .zero ∧ genesis.chain.nextNumber = .ok 0 ∧
      ((assembler.processRounds rounds).run Depot.platform.journaled
        (.untouched genesis depot)).2.platform.Faultless ∧
      (footing.allAnswers groups).map (Option.map ClosedBlock.number) =
        [none, some 0, some 1] ∧
      IsCut 2 rounds groups left ∧
      ∃ last after,
        (assembler.processRounds rounds).run Depot.platform.journaled (.untouched genesis depot) =
          (.ok ((footing.allAnswers groups ++ List.replicate left.length none).map Except.ok, last),
            after) ∧
        footing.Produces groups (.untouched genesis depot) after ∧
        last.isFrozen = rounds.any Round.freeze := by
  intro settings genesis assembler depot footing items rounds groups left
  have started : Assembler.start settings .genesis = .ok (assembler, genesis) := rfl
  have unmanaged : ∀ round ∈ rounds, ∀ item ∈ round.items, item.isManaged = false := by decide
  have thawed : ∀ round ∈ rounds.dropLast, round.freeze = false := by decide
  have faultless : ((assembler.processRounds rounds).run Depot.platform.journaled
      (.untouched genesis depot)).2.platform.Faultless := by decide +kernel
  have numbers : (footing.allAnswers groups).map (Option.map ClosedBlock.number) =
      [none, some 0, some 1] := by decide +kernel
  exact ⟨started, rfl, rfl, faultless, numbers,
    production_equals_reference started rfl rfl Depot.platform depot (by decide) unmanaged thawed
      faultless⟩

end
end ProvenBlocks
