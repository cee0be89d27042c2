import ProvenBlocks.Item.Encoding
import ProvenBlocks.Script

/-!
The ledger of unproven blocks: a closed block is handed over and its signature requested; a
signature proves every block up to the signed one, each through its own writer.
-/

namespace ProvenBlocks

structure FinalizedBlock where
  number : UInt64
  kind : ProofKind
  siblingCount : UInt64
  deriving DecidableEq

def ResolvedBlock.finalized {ω : Type} (resolved : ResolvedBlock ω) : FinalizedBlock :=
  ⟨resolved.block.number, resolved.kind, UInt64.ofNat resolved.siblings.length⟩

def Counter.ofProof : ProofKind → Counter
  | .direct => .direct
  | .indirect => .indirect

namespace Ledger

/-- A block out of sequence is refused and its writer let go. -/
def submit (block : UnprovenBlock WriterId) : Script (Except StreamError Unit) := do
  match ← Script.enqueue block with
  | .error (.overflow overflow) => Script.stop overflow
  | .error (.stream error) =>
      Script.release block.writer
      return .error error
  | .ok () =>
      Script.count .requests
      Script.requestSignature block.hash
      return .ok ()

def writeProof (resolved : ResolvedBlock WriterId) (signature : Bytes) :
    Script (Except StreamError Unit) := do
  let block := resolved.block
  match ← Script.writeItem block.writer (Item.proof (resolved.proof signature)).encode with
  | .error fault =>
      Script.release block.writer
      return .error (.writer block.number fault.message)
  | .ok () =>
      let closed ← Script.closeBlock block.writer
      Script.release block.writer
      match closed with
      | .error fault => return .error (.writer block.number fault.message)
      | .ok () => return .ok ()

/-- Every proof is attempted; the first error is kept. -/
def writeProofs (signature : Bytes) :
    List (ResolvedBlock WriterId) → Script (List FinalizedBlock × Option StreamError)
  | [] => return ([], none)
  | resolved :: later => do
      match ← writeProof resolved signature with
      | .error error =>
          let (finalized, _) ← writeProofs signature later
          return (finalized, some error)
      | .ok () =>
          Script.count (Counter.ofProof resolved.kind)
          let (finalized, error) ← writeProofs signature later
          return (resolved.finalized :: finalized, error)

/-- A signature over no unproven block is counted and ignored. -/
def applySignature (signed : Digest) (signature : Bytes) :
    Script (Except StreamError (List FinalizedBlock)) := do
  match ← Script.resolve signed with
  | [] =>
      Script.count .ignored
      return .ok []
  | first :: later =>
      let (finalized, error) ← writeProofs signature (first :: later)
      match error with
      | some error => return .error error
      | none => return .ok finalized

end Ledger
end ProvenBlocks
