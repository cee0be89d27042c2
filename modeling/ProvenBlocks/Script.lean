import ProvenBlocks.Chain
import ProvenBlocks.Counters
import ProvenBlocks.IoFault
import ProvenBlocks.UnprovenRun

/-!
Work of the stream as scripts: trees that perform one effect at a time and go on with its answer.
A platform answers what concerns writers and stored checkpoints; the world around it holds what is
shared inside the stream: the view that readers see, the run of unproven blocks, the counters and
the signatures asked for. Running a script performs its effects in order.
-/

namespace ProvenBlocks

abbrev WriterId := Nat

/-- What readers see while blocks are being assembled. -/
structure View where
  chain : Chain
  outputs : OutputRoots
  openBlock : Option UInt64

namespace View

def hashOf (view : View) (number : UInt64) : Option Digest := view.chain.hashOf number

def seed (view : View) : Option Digest := view.outputs.seed

/-- The open block comes before the last closed one. -/
def currentNumber (view : View) : Option UInt64 := view.openBlock.or view.chain.lastNumber

def lastHash (view : View) : Option Digest := view.chain.lastHash

end View

inductive Effect where
  | createWriter
  | openBlock (writer : WriterId) (number : UInt64)
  | writeItem (writer : WriterId) (content : Bytes)
  | closeBlock (writer : WriterId)
  | release (writer : WriterId)
  | save (checkpoint : Checkpoint)
  | requestSignature (hash : Digest)
  | readView
  | writeView (view : View)
  | enqueue (block : UnprovenBlock WriterId)
  | resolve (signed : Digest)
  | count (counter : Counter)

def Effect.Answer : Effect → Type
  | .createWriter => Except IoFault WriterId
  | .openBlock _ _ => Except IoFault Unit
  | .writeItem _ _ => Except IoFault Unit
  | .closeBlock _ => Except IoFault Unit
  | .release _ => Unit
  | .save _ => Except StreamError Unit
  | .requestSignature _ => Unit
  | .readView => View
  | .writeView _ => Unit
  | .enqueue _ => Except Failure Unit
  | .resolve _ => List (ResolvedBlock WriterId)
  | .count _ => Unit

/-- A script ends with a value, stops on an overflow, or performs an effect and goes on. -/
inductive Script (α : Type) where
  | done (value : α)
  | stop (overflow : Overflow)
  | perform (effect : Effect) (next : effect.Answer → Script α)

namespace Script

variable {α β : Type}

def andThen : Script α → (α → Script β) → Script β
  | .done value, following => following value
  | .stop overflow, _ => .stop overflow
  | .perform effect next, following => .perform effect fun answer => (next answer).andThen following

instance : Monad Script where
  pure := .done
  bind := andThen

def ask (effect : Effect) : Script effect.Answer := .perform effect .done

def createWriter : Script (Except IoFault WriterId) := ask .createWriter

def openBlock (writer : WriterId) (number : UInt64) : Script (Except IoFault Unit) :=
  ask (.openBlock writer number)

def writeItem (writer : WriterId) (content : Bytes) : Script (Except IoFault Unit) :=
  ask (.writeItem writer content)

def closeBlock (writer : WriterId) : Script (Except IoFault Unit) := ask (.closeBlock writer)

def release (writer : WriterId) : Script Unit := ask (.release writer)

def save (checkpoint : Checkpoint) : Script (Except StreamError Unit) := ask (.save checkpoint)

def requestSignature (hash : Digest) : Script Unit := ask (.requestSignature hash)

def readView : Script View := ask .readView

def writeView (view : View) : Script Unit := ask (.writeView view)

def enqueue (block : UnprovenBlock WriterId) : Script (Except Failure Unit) :=
  ask (.enqueue block)

def resolve (signed : Digest) : Script (List (ResolvedBlock WriterId)) := ask (.resolve signed)

def count (counter : Counter) : Script Unit := ask (.count counter)

/-- An overflow ends the script; an error of the stream is a value. -/
def ofFailure : Except Failure α → Script (Except StreamError α)
  | .ok value => .done (.ok value)
  | .error (.stream error) => .done (.error error)
  | .error (.overflow overflow) => .stop overflow

def ofOverflow : Except Overflow α → Script α
  | .ok value => .done value
  | .error overflow => .stop overflow

end Script

structure Platform (σ : Type) where
  create : σ → Except IoFault WriterId × σ
  openBlock : WriterId → UInt64 → σ → Except IoFault Unit × σ
  writeItem : WriterId → Bytes → σ → Except IoFault Unit × σ
  closeBlock : WriterId → σ → Except IoFault Unit × σ
  release : WriterId → σ → σ
  save : Checkpoint → σ → Except StreamError Unit × σ

/-- Requests are the hashes whose signature was asked for, in order. -/
structure World (σ : Type) where
  view : View
  unproven : UnprovenRun WriterId
  counters : Counters
  requests : List Digest
  platform : σ

namespace World

variable {σ : Type}

def answer (platform : Platform σ) (world : World σ) :
    (effect : Effect) → effect.Answer × World σ
  | .createWriter =>
      let (answer, rest) := platform.create world.platform
      (answer, { world with platform := rest })
  | .openBlock writer number =>
      let (answer, rest) := platform.openBlock writer number world.platform
      (answer, { world with platform := rest })
  | .writeItem writer content =>
      let (answer, rest) := platform.writeItem writer content world.platform
      (answer, { world with platform := rest })
  | .closeBlock writer =>
      let (answer, rest) := platform.closeBlock writer world.platform
      (answer, { world with platform := rest })
  | .release writer => ((), { world with platform := platform.release writer world.platform })
  | .save checkpoint =>
      let (answer, rest) := platform.save checkpoint world.platform
      (answer, { world with platform := rest })
  | .requestSignature hash => ((), { world with requests := world.requests ++ [hash] })
  | .readView => (world.view, world)
  | .writeView view => ((), { world with view := view })
  | .enqueue block =>
      match world.unproven.push block with
      | .ok unproven => (.ok (), { world with unproven := unproven })
      | .error failure => (.error failure, world)
  | .resolve signed =>
      let (resolved, unproven) := world.unproven.resolve signed
      (resolved, { world with unproven := unproven })
  | .count counter => ((), { world with counters := world.counters.increment counter })

end World

namespace Script

variable {α β σ : Type}

def run (platform : Platform σ) : Script α → World σ → Except Overflow α × World σ
  | .done value, world => (.ok value, world)
  | .stop overflow, world => (.error overflow, world)
  | .perform effect next, world =>
      let (answer, after) := world.answer platform effect
      (next answer).run platform after

theorem run_and_then (platform : Platform σ) (script : Script α) (following : α → Script β)
    (world : World σ) :
    (script.andThen following).run platform world =
      match script.run platform world with
      | (.ok value, after) => (following value).run platform after
      | (.error overflow, after) => (.error overflow, after) := by
  induction script generalizing world with
  | done value => rfl
  | stop overflow => rfl
  | perform effect next inductive_hypothesis =>
      simp only [andThen, run]
      exact inductive_hypothesis _ _

end Script
end ProvenBlocks
