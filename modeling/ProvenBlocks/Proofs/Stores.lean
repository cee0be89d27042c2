import ProvenBlocks.Proofs.Calm

/-!
Stores of checkpoints. As long as no call fails, a script leaves a store with the checkpoint that
was saved last, or with what the store held at first.
-/

namespace ProvenBlocks

/-- A store gives back what was saved last, and no other call touches it. Sound states are the
ones that all this holds of. -/
structure Platform.Stores {σ : Type} (platform : Platform σ)
    (load : σ → Except StreamError (Option Checkpoint)) (sound : σ → Prop) : Prop where
  create : ∀ {state : σ}, sound state →
    sound (platform.create state).2 ∧ load (platform.create state).2 = load state
  openBlock : ∀ {state : σ} (writer : WriterId) (number : UInt64), sound state →
    sound (platform.openBlock writer number state).2 ∧
      load (platform.openBlock writer number state).2 = load state
  writeItem : ∀ {state : σ} (writer : WriterId) (content : Bytes), sound state →
    sound (platform.writeItem writer content state).2 ∧
      load (platform.writeItem writer content state).2 = load state
  closeBlock : ∀ {state : σ} (writer : WriterId), sound state →
    sound (platform.closeBlock writer state).2 ∧
      load (platform.closeBlock writer state).2 = load state
  release : ∀ {state : σ} (writer : WriterId), sound state →
    sound (platform.release writer state) ∧ load (platform.release writer state) = load state
  save : ∀ {state after : σ} {checkpoint : Checkpoint}, sound state →
    platform.save checkpoint state = (.ok (), after) →
      sound after ∧ load after = .ok (some checkpoint)

/-- A depot that keeps its checkpoint in memory. -/
def Depot.KeepsInMemory (depot : Depot) : Prop := ∃ stored, depot.store = .memory stored

theorem Depot.stores_of_store {depot after : Depot} (sound : depot.KeepsInMemory)
    (same : after.store = depot.store) : after.KeepsInMemory ∧ after.load = depot.load := by
  obtain ⟨stored, memory⟩ := sound
  constructor
  · exact ⟨stored, same.trans memory⟩
  · simp only [Depot.load, same, memory]

theorem Depot.with_writer_store (depot : Depot) (writer : WriterId)
    (work : Writer → Medium → Except IoFault Unit × Writer × Medium) :
    (depot.withWriter writer work).2.store = depot.store := by
  unfold Depot.withWriter
  split <;> rfl

theorem Depot.stores_in_memory : Depot.platform.Stores Depot.load Depot.KeepsInMemory where
  create := by
    intro depot sound
    simp only [Depot.platform, Depot.create]
    split <;> exact ⟨sound, rfl⟩
  openBlock := by
    intro depot writer number sound
    exact Depot.stores_of_store sound (depot.with_writer_store writer _)
  writeItem := by
    intro depot writer content sound
    exact Depot.stores_of_store sound (depot.with_writer_store writer _)
  closeBlock := by
    intro depot writer sound
    exact Depot.stores_of_store sound (depot.with_writer_store writer _)
  release := by
    intro depot writer sound
    apply Depot.stores_of_store sound
    simp only [Depot.platform, Depot.release]
    split <;> rfl
  save := by
    intro depot after checkpoint sound saved
    simp only [Depot.platform, Depot.save] at saved
    obtain ⟨stored, memory⟩ := sound
    rw [memory] at saved
    split at saved
    · cases saved
    · cases saved
      exact ⟨⟨some checkpoint, rfl⟩, rfl⟩

/-- The store holds the checkpoint saved last, or what it held at first. -/
structure Journal.Remembers {σ : Type} (load : σ → Except StreamError (Option Checkpoint))
    (sound : σ → Prop) (stored : Option Checkpoint) (journal : Journal σ) : Prop where
  sound : sound journal.state
  loads : load journal.state = .ok ((saves journal.calls).getLast?.or stored)

section

variable {σ α : Type} {platform : Platform σ} {load : σ → Except StreamError (Option Checkpoint)}
  {sound : σ → Prop} {stored : Option Checkpoint}

/-- A call that saves nothing. -/
theorem Journal.Remembers.quiet {journal after : Journal σ}
    (remembers : journal.Remembers load sound stored) {call : Call} (quiet : call.saved? = none)
    (calls : after.calls = journal.calls ++ [call])
    (kept : sound after.state ∧ load after.state = load journal.state) :
    after.Remembers load sound stored where
  sound := kept.1
  loads := by
    have nothing : saves [call] = [] := by simp only [saves, List.filterMap, quiet]
    rw [kept.2, remembers.loads, calls, saves_append, nothing, List.append_nil]

theorem World.answer_remembers (stores : platform.Stores load sound) {world : World (Journal σ)}
    (remembers : world.platform.Remembers load sound stored) (effect : Effect)
    (faultless : (world.answer platform.journaled effect).2.platform.Faultless) :
    (world.answer platform.journaled effect).2.platform.Remembers load sound stored := by
  cases effect with
  | createWriter => exact remembers.quiet rfl rfl (stores.create remembers.sound)
  | openBlock writer number =>
      exact remembers.quiet rfl rfl (stores.openBlock writer number remembers.sound)
  | writeItem writer content =>
      exact remembers.quiet rfl rfl (stores.writeItem writer content remembers.sound)
  | closeBlock writer => exact remembers.quiet rfl rfl (stores.closeBlock writer remembers.sound)
  | release writer => exact remembers.quiet rfl rfl (stores.release writer remembers.sound)
  | save checkpoint =>
      rcases call : platform.journaled.save checkpoint world.platform with ⟨error | _, after⟩
      · simp only [World.answer, call] at faultless
        have failed := faultless.no_failure (.of_save call) (List.mem_singleton_self _)
        contradiction
      · simp only [World.answer, call]
        have calls := (Journal.Extends.of_save call).calls
        have kept : platform.save checkpoint world.platform.state = (.ok (), after.state) := by
          simp only [Platform.journaled, Prod.mk.injEq] at call
          obtain ⟨answer, rfl⟩ := call
          exact Prod.ext answer rfl
        obtain ⟨still, loads⟩ := stores.save remembers.sound kept
        constructor
        · exact still
        · rw [loads, calls, saves_append, saves_save, saves_nil, List.getLast?_concat]
          rfl
  | enqueue block =>
      simp only [World.answer]
      cases world.unproven.push block <;> exact remembers
  | requestSignature | readView | writeView | resolve | count => exact remembers

theorem Script.run_remembers (stores : platform.Stores load sound) {script : Script α}
    {world : World (Journal σ)} (remembers : world.platform.Remembers load sound stored)
    (faultless : (script.run platform.journaled world).2.platform.Faultless) :
    (script.run platform.journaled world).2.platform.Remembers load sound stored := by
  induction script generalizing world with
  | done value => exact remembers
  | stop overflow => exact remembers
  | perform effect next inductive_hypothesis =>
      have answered := World.answer_remembers stores remembers effect
        (Journal.Faultless.before faultless)
      exact inductive_hypothesis _ answered faultless

end
end ProvenBlocks
