import ProvenBlocks.Window

/-!
Running digests and the history of output roots. The digest that the history of four roots gives
up last is the seed.
-/

namespace ProvenBlocks

/-- The left fold of `Digest.link` from zero, and how many digests went in. -/
structure RunningDigest where
  value : Digest
  count : Nat
  deriving DecidableEq

namespace RunningDigest

def empty : RunningDigest := ⟨Digest.zero, 0⟩

def add (running : RunningDigest) (digest : Digest) : RunningDigest :=
  ⟨running.value.link digest, running.count + 1⟩

end RunningDigest

structure OutputRoots where
  running : RunningDigest
  history : Window
  seed : Option Digest

namespace OutputRoots

def historySize : Nat := 4

/-- A restored history exposes no seed before the next root pushes one out. -/
def ofHistory (roots : List Digest) : OutputRoots :=
  ⟨RunningDigest.empty, Window.ofList historySize roots, none⟩

def empty : OutputRoots := ofHistory []

def add (outputs : OutputRoots) (digest : Digest) : OutputRoots :=
  { outputs with running := outputs.running.add digest }

/-- Forgets what an earlier block left unfinished. -/
def reset (outputs : OutputRoots) : OutputRoots :=
  { outputs with running := RunningDigest.empty }

def finish (outputs : OutputRoots) : Digest × OutputRoots :=
  let root := outputs.running.value
  let (evicted, history) := outputs.history.push root
  (root, ⟨RunningDigest.empty, history, evicted.or outputs.seed⟩)

def trailing (outputs : OutputRoots) : List Digest := outputs.history.toList

end OutputRoots
end ProvenBlocks
