import ProvenBlocks.Checkpoint.Json
import ProvenBlocks.Item

/-!
JSON schemas of block items.
-/

namespace ProvenBlocks
namespace Schema

/-- A choice of bare names. -/
def readName (json : Json) : Option String :=
  match variantParts json with
  | some (name, content) => if isUnit content then some name else none
  | none => none

def writeAlgorithm : DigestAlgorithm → Json
  | .sha384 => text.write "Sha384"

def readAlgorithm (json : Json) : Option DigestAlgorithm :=
  match readName json with
  | some "Sha384" => some .sha384
  | _ => none

def algorithm : Schema DigestAlgorithm where
  write := writeAlgorithm
  read := readAlgorithm
  read_write := fun value => by cases value; rfl

def writeOutcome (value : Outcome) : Json := text.write value.name

def readOutcome (json : Json) : Option Outcome :=
  match readName json with
  | some "Success" => some .success
  | some "Failed" => some .failed
  | _ => none

def outcome : Schema Outcome where
  write := writeOutcome
  read := readOutcome
  read_write := fun value => by cases value <;> rfl

def header : Schema Header :=
  ((Fields.required "number" word64).pair
    ((Fields.required "first_round_consensus_time" instant).pair
      ((Fields.required "previous_block_hash" digest).pair
        ((Fields.required "software_version" text).pair
          (Fields.required "hash_algorithm" algorithm))))).record
    (fun raw => ⟨raw.1, raw.2.1, raw.2.2.1, raw.2.2.2.1, raw.2.2.2.2⟩)
    (fun value =>
      (value.number, value.openedAt, value.previousHash, value.softwareVersion, value.algorithm))
    (by decide) (fun value => by cases value; rfl)

def transaction : Schema Transaction :=
  (Fields.required "application_transaction" bytes).record
    Transaction.mk Transaction.content (by decide) (fun value => by cases value; rfl)

def transactionResult : Schema TransactionResult :=
  ((Fields.required "status" outcome).pair
    ((Fields.required "consensus_timestamp" instant).pair
      (Fields.required "transaction_fee_charged" word64))).record
    (fun raw => ⟨raw.1, raw.2.1, raw.2.2⟩)
    (fun value => (value.outcome, value.time, value.fee))
    (by decide) (fun value => by cases value; rfl)

def writeStateValue : StateValue → Json
  | .streamInfo content => variantOf "BlockStreamInfo" (checkpoint.write content)
  | .raw content => variantOf "Raw" (bytes.write content)

def readStateValue (json : Json) : Option StateValue :=
  match variantParts json with
  | some ("BlockStreamInfo", some content) => (checkpoint.read content).map .streamInfo
  | some ("Raw", some content) => (bytes.read content).map .raw
  | _ => none

def stateValue : Schema StateValue where
  write := writeStateValue
  read := readStateValue
  read_write := by
    intro value
    cases value <;>
      simp [writeStateValue, readStateValue, variantOf, variantParts, checkpoint.read_write,
        bytes.read_write]

def stateChange : Schema StateChange :=
  ((Fields.required "state_name" text).pair (Fields.required "value" stateValue)).record
    (fun raw => ⟨raw.1, raw.2⟩) (fun value => (value.name, value.value))
    (by decide) (fun value => by cases value; rfl)

def stateChanges : Schema StateChanges :=
  ((Fields.required "consensus_timestamp" instant).pair
    (Fields.required "state_changes" (list stateChange))).record
    (fun raw => ⟨raw.1, raw.2⟩) (fun value => (value.time, value.changes))
    (by decide) (fun value => by cases value; rfl)

def recordFile : Schema RecordFile :=
  ((Fields.required "creation_time" instant).pair
    (Fields.required "record_file_contents" bytes)).record
    (fun raw => ⟨raw.1, raw.2⟩) (fun value => (value.createdAt, value.content))
    (by decide) (fun value => by cases value; rfl)

def blockProof : Schema BlockProof :=
  ((Fields.required "block" word64).pair
    ((Fields.required "previous_block_root_hash" digest).pair
      ((Fields.required "block_signature" bytes).pair
        (Fields.required "sibling_hashes" (list digest))))).record
    (fun raw => ⟨raw.1, raw.2.1, raw.2.2.1, raw.2.2.2⟩)
    (fun value => (value.block, value.previousHash, value.signature, value.siblings))
    (by decide) (fun value => by cases value; rfl)

def writeItem : Item → Json
  | .header content => variantOf "BlockHeader" (header.write content)
  | .transaction content => variantOf "EventTransaction" (transaction.write content)
  | .result content => variantOf "TransactionResult" (transactionResult.write content)
  | .stateChanges content => variantOf "StateChanges" (stateChanges.write content)
  | .recordFile content => variantOf "RecordFile" (recordFile.write content)
  | .proof content => variantOf "BlockProof" (blockProof.write content)

def readItem (json : Json) : Option Item :=
  match variantParts json with
  | some ("BlockHeader", some content) => (header.read content).map .header
  | some ("EventTransaction", some content) => (transaction.read content).map .transaction
  | some ("TransactionResult", some content) => (transactionResult.read content).map .result
  | some ("StateChanges", some content) => (stateChanges.read content).map .stateChanges
  | some ("RecordFile", some content) => (recordFile.read content).map .recordFile
  | some ("BlockProof", some content) => (blockProof.read content).map .proof
  | _ => none

def item : Schema Item where
  write := writeItem
  read := readItem
  read_write := by
    intro value
    cases value <;>
      simp [writeItem, readItem, variantOf, variantParts, header.read_write,
        transaction.read_write, transactionResult.read_write, stateChanges.read_write,
        recordFile.read_write, blockProof.read_write]

end Schema
end ProvenBlocks
