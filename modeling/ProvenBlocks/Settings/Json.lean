import ProvenBlocks.Json.Record
import ProvenBlocks.Settings

/-!
Settings read from JSON. A field that is absent keeps its default; one that is present must have
the right form.
-/

namespace ProvenBlocks
namespace StreamSettings

def fieldNames : List String :=
  ["rounds_per_block", "software_version", "block_dir", "state_path",
    "signature_channel_capacity"]

def readField {α : Type} (schema : Schema α) (fallback : α) : Option Json → Option α
  | none => some fallback
  | some json => schema.read json

def ofFields : List (Option Json) → Option StreamSettings
  | [rounds, version, directory, path, capacity] => do
      let rounds ← readField .word32 default.roundsPerBlock rounds
      let version ← readField .text default.softwareVersion version
      let directory ← readField .text default.blockDirectory directory
      let path ← readField .text default.statePath path
      let capacity ← readField .word64 default.signatureCapacity capacity
      some ⟨rounds, version, directory, path, capacity⟩
  | _ => none

def ofJson (json : Json) : Option StreamSettings :=
  (json.defaultedFields fieldNames).bind ofFields

end StreamSettings
end ProvenBlocks
