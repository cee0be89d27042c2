import ProvenBlocks.Assembler
import ProvenBlocks.Checkpoint.Json
import ProvenBlocks.Signature

/-!
JSON schemas of what the stream and its signers announce: closed blocks, finalized blocks and
signatures.
-/

namespace ProvenBlocks
namespace Schema

def closedBlock : Schema ClosedBlock :=
  ((Fields.required "number" word64).pair
    ((Fields.required "block_hash" digest).pair
      ((Fields.required "previous_block_hash" digest).pair
        ((Fields.required "timestamp" instant).pair
          ((Fields.required "input_root" digest).pair
            ((Fields.required "output_root" digest).pair
              ((Fields.required "rounds" word32).pair
                ((Fields.required "item_count" word64).pair
                  (Fields.required "frozen" bool))))))))).record
    (fun ⟨number, hash, previousHash, time, inputRoot, outputRoot, rounds, items, frozen⟩ =>
      ⟨number, hash, previousHash, time, inputRoot, outputRoot, rounds, items, frozen⟩)
    (fun value =>
      (value.number, value.hash, value.previousHash, value.time, value.inputRoot,
        value.outputRoot, value.rounds, value.items, value.frozen))
    (by decide) (fun _ => rfl)

def writeProofKind (kind : ProofKind) : Json := text.write kind.name

def readProofKind (json : Json) : Option ProofKind :=
  match variantParts json with
  | some ("Direct", content) => if isUnit content then some .direct else none
  | some ("Indirect", content) => if isUnit content then some .indirect else none
  | _ => none

def proofKind : Schema ProofKind where
  write := writeProofKind
  read := readProofKind
  read_write := fun value => by cases value <;> rfl

def finalizedBlock : Schema FinalizedBlock :=
  ((Fields.required "number" word64).pair
    ((Fields.required "kind" proofKind).pair (Fields.required "sibling_count" word64))).record
    (fun raw => ⟨raw.1, raw.2.1, raw.2.2⟩)
    (fun value => (value.number, value.kind, value.siblingCount))
    (by decide) (fun _ => rfl)

def signature : Schema Signature :=
  ((Fields.required "message_hash" digest).pair (Fields.required "signature" bytes)).record
    (fun raw => ⟨raw.1, raw.2⟩) (fun value => (value.message, value.content))
    (by decide) (fun _ => rfl)

end Schema
end ProvenBlocks
