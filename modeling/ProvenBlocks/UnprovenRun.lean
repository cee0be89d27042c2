import ProvenBlocks.Failure

/-!
The run of closed blocks that wait for a proof: numbers ascend without gaps, and a signature takes
every block up to the signed one from the front.
-/

namespace ProvenBlocks

structure UnprovenBlock (ω : Type) where
  number : UInt64
  hash : Digest
  previousHash : Digest
  steps : List Digest
  writer : ω

/-- A block taken from the run, with the steps that lead from its hash to the signed one. -/
structure ResolvedBlock (ω : Type) where
  block : UnprovenBlock ω
  siblings : List Digest

inductive ProofKind where
  | direct
  | indirect
  deriving DecidableEq

def ProofKind.name : ProofKind → String
  | .direct => "Direct"
  | .indirect => "Indirect"

/-- A proof without siblings is signed over the block's own hash. -/
def ProofKind.ofSiblings : List Digest → ProofKind
  | [] => .direct
  | _ :: _ => .indirect

namespace ResolvedBlock

variable {ω : Type}

def kind (resolved : ResolvedBlock ω) : ProofKind := .ofSiblings resolved.siblings

def proof (resolved : ResolvedBlock ω) (signature : Bytes) : BlockProof :=
  ⟨resolved.block.number, resolved.block.previousHash, signature, resolved.siblings⟩

end ResolvedBlock

namespace BlockProof

def kind (proof : BlockProof) : ProofKind := .ofSiblings proof.siblings

/-- The hash that the signature covers. -/
def signedHash (proof : BlockProof) (blockHash : Digest) : Digest :=
  blockHash.linkAll proof.siblings

end BlockProof

def verifySiblings (blockHash : Digest) (siblings : List Digest) (signed : Digest) : Bool :=
  blockHash.linkAll siblings == signed

structure UnprovenRun (ω : Type) where
  blocks : List (UnprovenBlock ω)

namespace UnprovenRun

variable {ω : Type}

def empty : UnprovenRun ω := ⟨[]⟩

def push (run : UnprovenRun ω) (block : UnprovenBlock ω) : Except Failure (UnprovenRun ω) :=
  match run.blocks.getLast? with
  | none => .ok ⟨run.blocks ++ [block]⟩
  | some tail =>
      match checkedSucc tail.number with
      | .error overflow => .error (.overflow overflow)
      | .ok expected =>
          if block.number = expected then .ok ⟨run.blocks ++ [block]⟩
          else .error (.stream (.nonContiguous expected block.number))

/-- Pairs every block with the steps of the blocks after it, working from the back. -/
def pairWithSiblings : List (UnprovenBlock ω) → List (ResolvedBlock ω) × List Digest
  | [] => ([], [])
  | block :: later =>
      let (resolved, following) := pairWithSiblings later
      (⟨block, following⟩ :: resolved, block.steps ++ following)

/-- Takes every block up to the first whose hash is the signed one; none if no hash matches. -/
def resolve (run : UnprovenRun ω) (signed : Digest) : List (ResolvedBlock ω) × UnprovenRun ω :=
  match run.blocks.findIdx? (fun block => block.hash == signed) with
  | none => ([], run)
  | some index =>
      ((pairWithSiblings (run.blocks.take (index + 1))).1, ⟨run.blocks.drop (index + 1)⟩)

def size (run : UnprovenRun ω) : Nat := run.blocks.length

def oldest? (run : UnprovenRun ω) : Option UInt64 := run.blocks.head?.map UnprovenBlock.number

def numbers (run : UnprovenRun ω) : List UInt64 := run.blocks.map UnprovenBlock.number

def contains (run : UnprovenRun ω) (hash : Digest) : Bool :=
  run.blocks.any fun block => block.hash == hash

end UnprovenRun
end ProvenBlocks
