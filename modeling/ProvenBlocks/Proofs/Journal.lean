import Mathlib.Control.Monad.Basic
import ProvenBlocks.Depot
import ProvenBlocks.Proofs.Script

/-!
Journals. A journaled platform notes every call and how it went, and works like the platform
without a journal. What a writer has taken in, which block it was opened for and which checkpoints
were saved are read off the journal. Writers are told apart by a count of the created ones.
-/

namespace ProvenBlocks

/-- A call on a platform and how it went. -/
inductive Call where
  | create (answer : Except IoFault WriterId)
  | openBlock (writer : WriterId) (number : UInt64) (answer : Except IoFault Unit)
  | writeItem (writer : WriterId) (content : Bytes) (answer : Except IoFault Unit)
  | closeBlock (writer : WriterId) (answer : Except IoFault Unit)
  | release (writer : WriterId)
  | save (checkpoint : Checkpoint) (answer : Except StreamError Unit)
  deriving DecidableEq

namespace Call

/-- The writer that a call is about. -/
def writer? : Call → Option WriterId
  | .create (.ok writer) => some writer
  | .create (.error _) => none
  | .openBlock writer _ _ => some writer
  | .writeItem writer _ _ => some writer
  | .closeBlock writer _ => some writer
  | .release writer => some writer
  | .save _ _ => none

def content? (writer : WriterId) : Call → Option Bytes
  | .writeItem other content (.ok ()) => if other = writer then some content else none
  | _ => none

def opening? (writer : WriterId) : Call → Option UInt64
  | .openBlock other number (.ok ()) => if other = writer then some number else none
  | _ => none

def saved? : Call → Option Checkpoint
  | .save checkpoint (.ok ()) => some checkpoint
  | _ => none

/-- What was called for, without how it went. -/
def effect : Call → Effect
  | .create _ => .createWriter
  | .openBlock writer number _ => .openBlock writer number
  | .writeItem writer content _ => .writeItem writer content
  | .closeBlock writer _ => .closeBlock writer
  | .release writer => .release writer
  | .save checkpoint _ => .save checkpoint

def isFailure : Call → Bool
  | .create (.error _) | .openBlock _ _ (.error _) | .writeItem _ _ (.error _)
  | .closeBlock _ (.error _) | .save _ (.error _) => true
  | _ => false

end Call

/-- What a writer has taken in, in order. -/
def contents (calls : List Call) (writer : WriterId) : List Bytes :=
  calls.filterMap (Call.content? writer)

/-- The blocks that a writer was opened for. -/
def openings (calls : List Call) (writer : WriterId) : List UInt64 :=
  calls.filterMap (Call.opening? writer)

/-- The checkpoints saved, in order. -/
def saves (calls : List Call) : List Checkpoint := calls.filterMap Call.saved?

/-- Some call tried to close the block of the writer. -/
def IsClosed (calls : List Call) (writer : WriterId) : Prop :=
  ∃ answer, Call.closeBlock writer answer ∈ calls

/-- No call is about the writer. -/
def Untouched (calls : List Call) (writer : WriterId) : Prop :=
  ∀ call ∈ calls, call.writer? ≠ some writer

section

variable {calls more : List Call} {writer : WriterId}

@[simp] theorem contents_append :
    contents (calls ++ more) writer = contents calls writer ++ contents more writer :=
  List.filterMap_append

@[simp] theorem openings_append :
    openings (calls ++ more) writer = openings calls writer ++ openings more writer :=
  List.filterMap_append

@[simp] theorem saves_append : saves (calls ++ more) = saves calls ++ saves more :=
  List.filterMap_append

@[simp] theorem contents_nil : contents [] writer = [] := rfl

@[simp] theorem openings_nil : openings [] writer = [] := rfl

@[simp] theorem saves_nil : saves [] = [] := rfl

@[simp] theorem contents_create (answer : Except IoFault WriterId) :
    contents (.create answer :: calls) writer = contents calls writer := rfl

@[simp] theorem contents_open_block (other : WriterId) (number : UInt64)
    (answer : Except IoFault Unit) :
    contents (.openBlock other number answer :: calls) writer = contents calls writer := rfl

@[simp] theorem contents_write_item (content : Bytes) :
    contents (.writeItem writer content (.ok ()) :: calls) writer =
      content :: contents calls writer := by
  simp [contents, Call.content?]

@[simp] theorem contents_save (checkpoint : Checkpoint) (answer : Except StreamError Unit) :
    contents (.save checkpoint answer :: calls) writer = contents calls writer := rfl

@[simp] theorem openings_create (answer : Except IoFault WriterId) :
    openings (.create answer :: calls) writer = openings calls writer := rfl

@[simp] theorem openings_open_block (number : UInt64) :
    openings (.openBlock writer number (.ok ()) :: calls) writer =
      number :: openings calls writer := by
  simp [openings, Call.opening?]

@[simp] theorem openings_write_item (other : WriterId) (content : Bytes)
    (answer : Except IoFault Unit) :
    openings (.writeItem other content answer :: calls) writer = openings calls writer := rfl

@[simp] theorem openings_save (checkpoint : Checkpoint) (answer : Except StreamError Unit) :
    openings (.save checkpoint answer :: calls) writer = openings calls writer := rfl

@[simp] theorem saves_write_item (other : WriterId) (content : Bytes)
    (answer : Except IoFault Unit) :
    saves (.writeItem other content answer :: calls) = saves calls := rfl

@[simp] theorem saves_save (checkpoint : Checkpoint) :
    saves (.save checkpoint (.ok ()) :: calls) = checkpoint :: saves calls := rfl

theorem is_closed_append :
    IsClosed (calls ++ more) writer ↔ IsClosed calls writer ∨ IsClosed more writer := by
  simp [IsClosed, exists_or]

theorem untouched_append :
    Untouched (calls ++ more) writer ↔ Untouched calls writer ∧ Untouched more writer := by
  simp [Untouched, or_imp, forall_and]

theorem contents_untouched (untouched : Untouched calls writer) : contents calls writer = [] := by
  apply List.filterMap_eq_nil_iff.mpr
  intro call member
  have other := untouched call member
  unfold Call.content?
  split
  · rename_i found content
    exact if_neg fun same => other (by rw [Call.writer?, same])
  · rfl

theorem openings_untouched (untouched : Untouched calls writer) : openings calls writer = [] := by
  apply List.filterMap_eq_nil_iff.mpr
  intro call member
  have other := untouched call member
  unfold Call.opening?
  split
  · rename_i found number
    exact if_neg fun same => other (by rw [Call.writer?, same])
  · rfl

theorem not_closed_untouched (untouched : Untouched calls writer) : ¬ IsClosed calls writer := by
  rintro ⟨answer, member⟩
  exact untouched _ member rfl

end

/-- A platform with the calls made on it so far. -/
structure Journal (σ : Type) where
  calls : List Call
  state : σ

namespace Journal

variable {σ : Type}

def note (journal : Journal σ) (call : Call) (state : σ) : Journal σ :=
  ⟨journal.calls ++ [call], state⟩

end Journal

namespace Platform

variable {σ : Type}

def journaled (platform : Platform σ) : Platform (Journal σ) where
  create := fun journal =>
    let (answer, state) := platform.create journal.state
    (answer, journal.note (.create answer) state)
  openBlock := fun writer number journal =>
    let (answer, state) := platform.openBlock writer number journal.state
    (answer, journal.note (.openBlock writer number answer) state)
  writeItem := fun writer content journal =>
    let (answer, state) := platform.writeItem writer content journal.state
    (answer, journal.note (.writeItem writer content answer) state)
  closeBlock := fun writer journal =>
    let (answer, state) := platform.closeBlock writer journal.state
    (answer, journal.note (.closeBlock writer answer) state)
  release := fun writer journal =>
    journal.note (.release writer) (platform.release writer journal.state)
  save := fun checkpoint journal =>
    let (answer, state) := platform.save checkpoint journal.state
    (answer, journal.note (.save checkpoint answer) state)

/-- No writer is created twice: every new one is at or above the count of those before. -/
structure CountsWriters (platform : Platform σ) (created : σ → Nat) : Prop where
  create_ok : ∀ {state after : σ} {writer : Nat}, platform.create state = (.ok writer, after) →
    created state ≤ writer ∧ writer < created after
  create : ∀ state, created state ≤ created (platform.create state).2
  openBlock : ∀ writer number state,
    created state ≤ created (platform.openBlock writer number state).2
  writeItem : ∀ writer content state,
    created state ≤ created (platform.writeItem writer content state).2
  closeBlock : ∀ writer state, created state ≤ created (platform.closeBlock writer state).2
  release : ∀ writer state, created state ≤ created (platform.release writer state)
  save : ∀ checkpoint state, created state ≤ created (platform.save checkpoint state).2

end Platform

/-- How far calls have led: which ones were noted, and that no writer was uncounted. -/
structure Journal.Extends {σ : Type} (platform : Platform σ) (before : Journal σ)
    (calls : List Call) (after : Journal σ) : Prop where
  calls : after.calls = before.calls ++ calls
  counted : ∀ created : σ → Nat, platform.CountsWriters created →
    created before.state ≤ created after.state

namespace Journal.Extends

variable {σ : Type} {platform : Platform σ} {before middle after : Journal σ}

theorem refl (journal : Journal σ) : Extends platform journal [] journal :=
  ⟨(List.append_nil _).symm, fun _ _ => Nat.le_refl _⟩

theorem trans {first second : List Call} (head : Extends platform before first middle)
    (tail : Extends platform middle second after) :
    Extends platform before (first ++ second) after :=
  ⟨by rw [tail.calls, head.calls, List.append_assoc],
    fun created counts => Nat.le_trans (head.counted created counts) (tail.counted created counts)⟩

theorem of_create {answer : Except IoFault WriterId}
    (call : platform.journaled.create before = (answer, after)) :
    Extends platform before [.create answer] after := by
  cases call
  exact ⟨rfl, fun _ counts => counts.create _⟩

theorem of_open_block {writer : WriterId} {number : UInt64} {answer : Except IoFault Unit}
    (call : platform.journaled.openBlock writer number before = (answer, after)) :
    Extends platform before [.openBlock writer number answer] after := by
  cases call
  exact ⟨rfl, fun _ counts => counts.openBlock _ _ _⟩

theorem of_write_item {writer : WriterId} {content : Bytes} {answer : Except IoFault Unit}
    (call : platform.journaled.writeItem writer content before = (answer, after)) :
    Extends platform before [.writeItem writer content answer] after := by
  cases call
  exact ⟨rfl, fun _ counts => counts.writeItem _ _ _⟩

theorem of_close_block {writer : WriterId} {answer : Except IoFault Unit}
    (call : platform.journaled.closeBlock writer before = (answer, after)) :
    Extends platform before [.closeBlock writer answer] after := by
  cases call
  exact ⟨rfl, fun _ counts => counts.closeBlock _ _⟩

theorem of_release (before : Journal σ) (writer : WriterId) :
    Extends platform before [.release writer] (platform.journaled.release writer before) :=
  ⟨rfl, fun _ counts => counts.release _ _⟩

theorem of_save {checkpoint : Checkpoint} {answer : Except StreamError Unit}
    (call : platform.journaled.save checkpoint before = (answer, after)) :
    Extends platform before [.save checkpoint answer] after := by
  cases call
  exact ⟨rfl, fun _ counts => counts.save _ _⟩

end Journal.Extends

theorem Platform.CountsWriters.journaled_create {σ : Type} {platform : Platform σ}
    {created : σ → Nat} (counts : platform.CountsWriters created) {before after : Journal σ}
    {writer : Nat} (call : platform.journaled.create before = (.ok writer, after)) :
    created before.state ≤ writer ∧ writer < created after.state := by
  simp only [Platform.journaled, Prod.mk.injEq] at call
  obtain ⟨answer, rfl⟩ := call
  exact counts.create_ok (Prod.ext answer rfl)

theorem Depot.counts_writers : Depot.platform.CountsWriters Depot.created where
  create_ok := by
    intro depot after writer created
    simp only [Depot.platform, Depot.create] at created
    split at created
    · cases created
    · cases created
      exact ⟨Nat.le_refl _, Nat.lt_succ_self _⟩
  create := by
    intro depot
    simp only [Depot.platform, Depot.create]
    split
    · exact Nat.le_refl _
    · exact Nat.le_succ _
  openBlock := by
    intro writer number depot
    simp only [Depot.platform, Depot.openBlock, Depot.withWriter]
    split <;> exact Nat.le_refl _
  writeItem := by
    intro writer content depot
    simp only [Depot.platform, Depot.writeItem, Depot.withWriter]
    split <;> exact Nat.le_refl _
  closeBlock := by
    intro writer depot
    simp only [Depot.platform, Depot.closeBlock, Depot.withWriter]
    split <;> exact Nat.le_refl _
  release := by
    intro writer depot
    simp only [Depot.platform, Depot.release]
    split <;> exact Nat.le_refl _
  save := by
    intro checkpoint depot
    simp only [Depot.platform, Depot.save]
    split
    · exact Nat.le_refl _
    · split
      · exact Nat.le_refl _
      · split <;> exact Nat.le_refl _

/-- The call that an effect is, if it concerns the platform. -/
def Effect.noted : (effect : Effect) → effect.Answer → List Call
  | .createWriter, answer => [.create answer]
  | .openBlock writer number, answer => [.openBlock writer number answer]
  | .writeItem writer content, answer => [.writeItem writer content answer]
  | .closeBlock writer, answer => [.closeBlock writer answer]
  | .release writer, _ => [.release writer]
  | .save checkpoint, answer => [.save checkpoint answer]
  | .requestSignature _, _ | .readView, _ | .writeView _, _ | .enqueue _, _ | .resolve _, _
  | .count _, _ => []

theorem World.answer_noted {σ : Type} (platform : Platform σ) (world : World (Journal σ))
    (effect : Effect) :
    (world.answer platform.journaled effect).2.platform.calls =
      world.platform.calls ++ effect.noted (world.answer platform.journaled effect).1 := by
  cases effect with
  | enqueue block =>
      simp only [World.answer]
      cases world.unproven.push block <;> exact (List.append_nil _).symm
  | createWriter | openBlock | writeItem | closeBlock | release | save => rfl
  | requestSignature | readView | writeView | resolve | count => exact (List.append_nil _).symm

/-- The calls that a script makes. -/
def Script.calls {σ α : Type} (platform : Platform σ) : Script α → World (Journal σ) → List Call
  | .done _, _ | .stop _, _ => []
  | .perform effect next, world =>
      let (answer, after) := world.answer platform.journaled effect
      effect.noted answer ++ (next answer).calls platform after

theorem Script.run_noted {σ α : Type} (platform : Platform σ) (script : Script α)
    (world : World (Journal σ)) :
    (script.run platform.journaled world).2.platform.calls =
      world.platform.calls ++ script.calls platform world := by
  induction script generalizing world with
  | done value => exact (List.append_nil _).symm
  | stop overflow => exact (List.append_nil _).symm
  | perform effect next inductive_hypothesis =>
      simp only [run, calls, inductive_hypothesis, world.answer_noted, List.append_assoc]

/-- The world without its journal. -/
def World.forget {σ : Type} (world : World (Journal σ)) : World σ where
  view := world.view
  unproven := world.unproven
  counters := world.counters
  requests := world.requests
  platform := world.platform.state

/-- The same world with nothing noted yet. -/
def World.withJournal {σ : Type} (world : World σ) : World (Journal σ) where
  view := world.view
  unproven := world.unproven
  counters := world.counters
  requests := world.requests
  platform := ⟨[], world.platform⟩

/-- A journal changes nothing. -/
theorem Script.run_journaled {σ α : Type} (platform : Platform σ) (script : Script α)
    (world : World (Journal σ)) :
    ((script.run platform.journaled world).1, (script.run platform.journaled world).2.forget) =
      script.run platform world.forget := by
  induction script generalizing world with
  | done value => rfl
  | stop overflow => rfl
  | perform effect next inductive_hypothesis =>
      have answered : world.forget.answer platform effect =
          ((world.answer platform.journaled effect).1,
            (world.answer platform.journaled effect).2.forget) := by
        cases effect with
        | enqueue block =>
            simp only [World.answer, World.forget]
            cases world.unproven.push block <;> rfl
        | _ => rfl
      simp only [Script.run, answered]
      exact inductive_hypothesis _ _

end ProvenBlocks
