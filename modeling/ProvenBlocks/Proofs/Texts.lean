import ProvenBlocks.Item.Json
import ProvenBlocks.Json.Announcement
import ProvenBlocks.Proofs.JsonText

/-!
Values as JSON text. Whatever the stream stores or announces as JSON comes back from its text, on
one line or indented, with every word, text, digest and list as it was. So no text stands for two
values, and a value that was read from any text is written and read again without a change.
-/

namespace ProvenBlocks
namespace Schema

variable {α : Type}

/-! ### Texts of values -/

/-- On one line. -/
def compact (schema : Schema α) (value : α) : String := (schema.write value).compactText

/-- One member or element a line. -/
def pretty (schema : Schema α) (value : α) : String :=
  String.ofList (schema.write value).indentedText

def parse (schema : Schema α) (text : String) : Option α := (Json.parse text).bind schema.read

/-- A text is one of the two that are written for the value. -/
def Writes (schema : Schema α) (value : α) (text : String) : Prop :=
  text = schema.compact value ∨ text = schema.pretty value

/-- Every value is read back from both of its texts. A value read from any text is written as a text
that is read as the same value, and different values share no text. -/
structure RoundTrips (schema : Schema α) : Prop where
  compact : ∀ value, schema.parse (schema.compact value) = some value
  pretty : ∀ value, schema.parse (schema.pretty value) = some value
  again : ∀ text value, schema.parse text = some value →
    ∀ written, schema.Writes value written → schema.parse written = some value
  distinct : ∀ first second text, schema.Writes first text → schema.Writes second text →
    first = second

theorem parse_of_chars (schema : Schema α) (text : List Char) :
    schema.parse (String.ofList text) = (Json.parseChars text).bind schema.read := by
  rw [parse, Json.parse, String.toList_ofList]

theorem round_trips {schema : Schema α} (plain : schema.WritesPlainly) : schema.RoundTrips := by
  have back : ∀ value text, schema.Writes value text → schema.parse text = some value := by
    rintro value text (rfl | rfl)
    · exact (schema.parse_of_chars _).trans (read_text plain .compact value)
    · exact (schema.parse_of_chars _).trans (read_text plain (.indented 0) value)
  constructor
  · exact fun value => back value _ (.inl rfl)
  · exact fun value => back value _ (.inr rfl)
  · exact fun _ value _ written writes => back value written writes
  · intro first second text one other
    have same := (back first text one).symm.trans (back second text other)
    exact Option.some.inj same

/-! ### Plain schemas -/

theorem bytes_plain : bytes.WritesPlainly :=
  list_plain fun _ => trivial

theorem variant_plain (name : String) {content : Json} (plain : content.IsPlain) :
    (variantOf name content).IsPlain :=
  ⟨trivial, plain, trivial⟩

theorem resumption_plain : resumption.WritesPlainly := by
  apply Fields.record_plain
  exact Fields.required_plain _ digest_plain

theorem anchor_plain : anchor.WritesPlainly := by
  intro value
  cases value with
  | resume lastHash => exact variant_plain _ (resumption_plain lastHash)
  | genesis => trivial

theorem algorithm_plain : algorithm.WritesPlainly := by
  intro value
  cases value
  trivial

theorem header_plain : header.WritesPlainly := by
  apply Fields.record_plain
  apply Fields.pair_plain
  · exact Fields.required_plain _ fun _ => trivial
  apply Fields.pair_plain
  · exact Fields.required_plain _ instant_plain
  apply Fields.pair_plain
  · exact Fields.required_plain _ digest_plain
  apply Fields.pair_plain
  · exact Fields.required_plain _ fun _ => trivial
  · exact Fields.required_plain _ algorithm_plain

theorem transaction_plain : transaction.WritesPlainly := by
  apply Fields.record_plain
  exact Fields.required_plain _ bytes_plain

theorem transaction_result_plain : transactionResult.WritesPlainly := by
  apply Fields.record_plain
  apply Fields.pair_plain
  · exact Fields.required_plain _ fun _ => trivial
  apply Fields.pair_plain
  · exact Fields.required_plain _ instant_plain
  · exact Fields.required_plain _ fun _ => trivial

theorem state_value_plain : stateValue.WritesPlainly := by
  intro value
  cases value with
  | streamInfo content => exact variant_plain _ (checkpoint_plain content)
  | raw content => exact variant_plain _ (bytes_plain content)

theorem state_change_plain : stateChange.WritesPlainly := by
  apply Fields.record_plain
  apply Fields.pair_plain
  · exact Fields.required_plain _ fun _ => trivial
  · exact Fields.required_plain _ state_value_plain

theorem state_changes_plain : stateChanges.WritesPlainly := by
  apply Fields.record_plain
  apply Fields.pair_plain
  · exact Fields.required_plain _ instant_plain
  · exact Fields.required_plain _ (list_plain state_change_plain)

theorem record_file_plain : recordFile.WritesPlainly := by
  apply Fields.record_plain
  apply Fields.pair_plain
  · exact Fields.required_plain _ instant_plain
  · exact Fields.required_plain _ bytes_plain

theorem block_proof_plain : blockProof.WritesPlainly := by
  apply Fields.record_plain
  apply Fields.pair_plain
  · exact Fields.required_plain _ fun _ => trivial
  apply Fields.pair_plain
  · exact Fields.required_plain _ digest_plain
  apply Fields.pair_plain
  · exact Fields.required_plain _ bytes_plain
  · exact Fields.required_plain _ (list_plain digest_plain)

theorem item_plain : item.WritesPlainly := by
  intro value
  cases value with
  | header content => exact variant_plain _ (header_plain content)
  | transaction content => exact variant_plain _ (transaction_plain content)
  | result content => exact variant_plain _ (transaction_result_plain content)
  | stateChanges content => exact variant_plain _ (state_changes_plain content)
  | recordFile content => exact variant_plain _ (record_file_plain content)
  | proof content => exact variant_plain _ (block_proof_plain content)

theorem closed_block_plain : closedBlock.WritesPlainly := by
  apply Fields.record_plain
  apply Fields.pair_plain
  · exact Fields.required_plain _ fun _ => trivial
  apply Fields.pair_plain
  · exact Fields.required_plain _ digest_plain
  apply Fields.pair_plain
  · exact Fields.required_plain _ digest_plain
  apply Fields.pair_plain
  · exact Fields.required_plain _ instant_plain
  apply Fields.pair_plain
  · exact Fields.required_plain _ digest_plain
  apply Fields.pair_plain
  · exact Fields.required_plain _ digest_plain
  apply Fields.pair_plain
  · exact Fields.required_plain _ fun _ => trivial
  apply Fields.pair_plain
  · exact Fields.required_plain _ fun _ => trivial
  · exact Fields.required_plain _ fun _ => trivial

theorem finalized_block_plain : finalizedBlock.WritesPlainly := by
  apply Fields.record_plain
  apply Fields.pair_plain
  · exact Fields.required_plain _ fun _ => trivial
  apply Fields.pair_plain
  · exact Fields.required_plain _ fun _ => trivial
  · exact Fields.required_plain _ fun _ => trivial

theorem signature_plain : signature.WritesPlainly := by
  apply Fields.record_plain
  apply Fields.pair_plain
  · exact Fields.required_plain _ digest_plain
  · exact Fields.required_plain _ bytes_plain

/-! ### What is stored and announced -/

/-- Checkpoints, anchors, items, closed and finalized blocks, signatures and instants all come back
from their texts. -/
theorem stored_and_announced_round_trip :
    checkpoint.RoundTrips ∧ anchor.RoundTrips ∧ item.RoundTrips ∧ closedBlock.RoundTrips ∧
      finalizedBlock.RoundTrips ∧ signature.RoundTrips ∧ instant.RoundTrips :=
  ⟨round_trips checkpoint_plain, round_trips anchor_plain, round_trips item_plain,
    round_trips closed_block_plain, round_trips finalized_block_plain,
    round_trips signature_plain, round_trips instant_plain⟩

end Schema
end ProvenBlocks
