import ProvenBlocks.Json.Record
import ProvenBlocks.Startup

/-!
JSON schemas of instants, checkpoints and anchors.
-/

namespace ProvenBlocks
namespace Schema

def instant : Schema Instant :=
  ((Fields.required "seconds" signed64).pair (Fields.required "nanos" word32)).record
    (fun raw => ⟨raw.1, raw.2⟩) (fun value => (value.seconds, value.nanos))
    (by decide) (fun value => by cases value; rfl)

theorem instant_visible : instant.Visible := Fields.record_visible _ _ _ _ _

/-- Number and time are null before the first closed block, and may then be left out. -/
def checkpoint : Schema Checkpoint :=
  ((Fields.optional "block_number" word64 word64_visible).pair
    ((Fields.optional "last_block_timestamp" instant instant_visible).pair
      ((Fields.required "trailing_output_hashes" (list digest)).pair
        (Fields.required "trailing_block_hashes" (list digest))))).record
    (fun raw => ⟨raw.1, raw.2.1, raw.2.2.1, raw.2.2.2⟩)
    (fun value => (value.blockNumber, value.blockTime, value.outputRoots, value.blockHashes))
    (by decide) (fun value => by cases value; rfl)

def resumption : Schema Digest :=
  (Fields.required "last_block_hash" digest).record id id (by decide) (fun _ => rfl)

def writeAnchor : Anchor → Json
  | .resume lastHash => variantOf "Resume" (resumption.write lastHash)
  | .genesis => text.write "Genesis"

def readAnchor (json : Json) : Option Anchor :=
  match variantParts json with
  | some ("Resume", some content) => (resumption.read content).map .resume
  | some ("Genesis", content) => if isUnit content then some .genesis else none
  | _ => none

def anchor : Schema Anchor where
  write := writeAnchor
  read := readAnchor
  read_write := by
    intro value
    cases value with
    | resume lastHash =>
        simp [writeAnchor, readAnchor, variantOf, variantParts, resumption.read_write]
    | genesis => rfl

end Schema
end ProvenBlocks
