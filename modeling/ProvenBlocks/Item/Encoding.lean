import ProvenBlocks.Codec
import ProvenBlocks.Failure

/-!
The written form of items. A decoder takes one item from the front and ignores what follows it.
-/

namespace ProvenBlocks

namespace Codec

def instant : Codec Instant :=
  (signed64.pair word32).map (fun raw => ⟨raw.1, raw.2⟩) (fun value => (value.seconds, value.nanos))
    (fun _ => rfl) (fun _ _ => rfl)

def checkpoint : Codec Checkpoint :=
  ((option word64).pair ((option instant).pair ((many digest).pair (many digest)))).map
    (fun raw => ⟨raw.1, raw.2.1, raw.2.2.1, raw.2.2.2⟩)
    (fun value => (value.blockNumber, value.blockTime, value.outputRoots, value.blockHashes))
    (fun _ => rfl) (fun _ _ => rfl)

def algorithm : Codec DigestAlgorithm :=
  (variant 1).map (fun _ => .sha384) (fun _ => 0)
    (fun _ => rfl) (fun raw _ => (Fin.fin_one_eq_zero raw).symm)

def header : Codec Header :=
  (word64.pair (instant.pair (digest.pair (text.pair algorithm)))).map
    (fun raw => ⟨raw.1, raw.2.1, raw.2.2.1, raw.2.2.2.1, raw.2.2.2.2⟩)
    (fun value =>
      (value.number, value.openedAt, value.previousHash, value.softwareVersion, value.algorithm))
    (fun _ => rfl) (fun _ _ => rfl)

def transaction : Codec Transaction :=
  bytes.map Transaction.mk Transaction.content (fun _ => rfl) (fun _ _ => rfl)

def outcomeOfTag : Fin 2 → Outcome
  | 0 => .success
  | 1 => .failed

def outcomeTag : Outcome → Fin 2
  | .success => 0
  | .failed => 1

def outcome : Codec Outcome :=
  (variant 2).map outcomeOfTag outcomeTag
    (fun value => by cases value <;> rfl) (fun raw _ => by match raw with | 0 => rfl | 1 => rfl)

def transactionResult : Codec TransactionResult :=
  (outcome.pair (instant.pair word64)).map
    (fun raw => ⟨raw.1, raw.2.1, raw.2.2⟩)
    (fun value => (value.outcome, value.time, value.fee))
    (fun _ => rfl) (fun _ _ => rfl)

def StateContent : Fin 2 → Type
  | 0 => Checkpoint
  | 1 => Bytes

def stateContent : (tag : Fin 2) → Codec (StateContent tag)
  | 0 => checkpoint
  | 1 => bytes

def stateValueOfParts : (tag : Fin 2) × StateContent tag → StateValue
  | ⟨0, checkpoint⟩ => .streamInfo checkpoint
  | ⟨1, content⟩ => .raw content

def stateValueParts : StateValue → (tag : Fin 2) × StateContent tag
  | .streamInfo checkpoint => ⟨0, checkpoint⟩
  | .raw content => ⟨1, content⟩

def stateValue : Codec StateValue :=
  ((variant 2).dependent stateContent).map stateValueOfParts stateValueParts
    (fun value => by cases value <;> rfl)
    (fun raw _ => by match raw with | ⟨0, _⟩ => rfl | ⟨1, _⟩ => rfl)

def stateChange : Codec StateChange :=
  (text.pair stateValue).map (fun raw => ⟨raw.1, raw.2⟩) (fun value => (value.name, value.value))
    (fun _ => rfl) (fun _ _ => rfl)

def stateChanges : Codec StateChanges :=
  (instant.pair (many stateChange)).map
    (fun raw => ⟨raw.1, raw.2⟩) (fun value => (value.time, value.changes))
    (fun _ => rfl) (fun _ _ => rfl)

def recordFile : Codec RecordFile :=
  (instant.pair bytes).map
    (fun raw => ⟨raw.1, raw.2⟩) (fun value => (value.createdAt, value.content))
    (fun _ => rfl) (fun _ _ => rfl)

def blockProof : Codec BlockProof :=
  (word64.pair (digest.pair (bytes.pair (many digest)))).map
    (fun raw => ⟨raw.1, raw.2.1, raw.2.2.1, raw.2.2.2⟩)
    (fun value => (value.block, value.previousHash, value.signature, value.siblings))
    (fun _ => rfl) (fun _ _ => rfl)

def ItemContent : Fin 6 → Type
  | 0 => Header
  | 1 => Transaction
  | 2 => TransactionResult
  | 3 => StateChanges
  | 4 => RecordFile
  | 5 => BlockProof

def itemContent : (tag : Fin 6) → Codec (ItemContent tag)
  | 0 => header
  | 1 => transaction
  | 2 => transactionResult
  | 3 => stateChanges
  | 4 => recordFile
  | 5 => blockProof

def itemOfParts : (tag : Fin 6) × ItemContent tag → Item
  | ⟨0, content⟩ => .header content
  | ⟨1, content⟩ => .transaction content
  | ⟨2, content⟩ => .result content
  | ⟨3, content⟩ => .stateChanges content
  | ⟨4, content⟩ => .recordFile content
  | ⟨5, content⟩ => .proof content

def itemParts : Item → (tag : Fin 6) × ItemContent tag
  | .header content => ⟨0, content⟩
  | .transaction content => ⟨1, content⟩
  | .result content => ⟨2, content⟩
  | .stateChanges content => ⟨3, content⟩
  | .recordFile content => ⟨4, content⟩
  | .proof content => ⟨5, content⟩

def item : Codec Item :=
  ((variant 6).dependent itemContent).map itemOfParts itemParts
    (fun value => by cases value <;> rfl)
    (fun raw _ => by
      match raw with
      | ⟨0, _⟩ => rfl
      | ⟨1, _⟩ => rfl
      | ⟨2, _⟩ => rfl
      | ⟨3, _⟩ => rfl
      | ⟨4, _⟩ => rfl
      | ⟨5, _⟩ => rfl)

end Codec

namespace Item

def encode (item : Item) : Bytes := Codec.item.encode item

def decode (input : Bytes) : Except DecodeFault Item :=
  match Codec.item.decode input with
  | .ok (item, _) => .ok item
  | .error fault => .error fault

/-- Bytes that are no item are an error of the stream. -/
def read (input : Bytes) : Except StreamError Item :=
  (decode input).mapError fun fault => .serialization fault.message

def hash (item : Item) : Digest := Digest.of item.encode

/-- Every text and list of the item is short enough for its written length. -/
def Fits (item : Item) : Prop := Codec.item.Fits item

end Item
end ProvenBlocks
