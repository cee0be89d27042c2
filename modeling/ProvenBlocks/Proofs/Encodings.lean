import Mathlib.Algebra.Group.Nat.Defs
import ProvenBlocks.Item.Encoding

/-!
What the written form of items is good for. It loses nothing, is the only form that is read, and
says where it ends, so that no written form is the beginning of another one. These laws hold of
every codec, and every item that can be held in memory fits.
-/

namespace ProvenBlocks
namespace Codec

variable {α β : Type}

/-! ### Laws of every codec -/

section

variable (codec : Codec α) {first second value : α}

/-- What was read, with what follows it, is written again as it was. -/
theorem fits_iff_read : codec.Fits value ↔ ∃ input suffix, codec.decode input = .ok (value, suffix) :=
  ⟨fun fits => ⟨_, [], codec.decode_encode value [] fits⟩,
    fun ⟨_, _, decoded⟩ => (codec.decode_sound decoded).1⟩

/-- No written form is the beginning of another one. -/
theorem encode_prefix_free (firstFits : codec.Fits first) (secondFits : codec.Fits second)
    (begins : codec.encode first <+: codec.encode second) : first = second := by
  obtain ⟨suffix, whole⟩ := begins
  have asFirst := codec.decode_encode first suffix firstFits
  have asSecond := codec.decode_encode second [] secondFits
  rw [List.append_nil, ← whole, asFirst, Except.ok.injEq, Prod.mk.injEq] at asSecond
  exact asSecond.1

theorem encode_injective (firstFits : codec.Fits first) (secondFits : codec.Fits second)
    (same : codec.encode first = codec.encode second) : first = second :=
  codec.encode_prefix_free firstFits secondFits ⟨[], by rw [List.append_nil, same]⟩

/-- A written form that ends early is not read. -/
theorem decode_truncated (fits : codec.Fits value) {size : Nat}
    (early : size < (codec.encode value).length) :
    ∃ fault, codec.decode ((codec.encode value).take size) = .error fault := by
  rcases decoded : codec.decode ((codec.encode value).take size) with fault | ⟨other, suffix⟩
  · exact ⟨fault, rfl⟩
  -- what is read from the front of the form is written in fewer bytes than the form has
  obtain ⟨otherFits, whole⟩ := codec.decode_sound decoded
  have begins : codec.encode other <+: codec.encode value :=
    List.IsPrefix.trans ⟨suffix, whole.symm⟩ (List.take_prefix _ _)
  have same := codec.encode_prefix_free otherFits fits begins
  have length := congrArg List.length whole
  rw [same, List.length_take_of_le (Nat.le_of_lt early), List.length_append] at length
  omega

end

/-! ### What fits -/

/-- Values fit if their written form is short enough for a machine. -/
def FitsShort (codec : Codec α) : Prop :=
  ∀ value, (codec.encode value).length < 2 ^ 64 → codec.Fits value

theorem FitsShort.map {codec : Codec α} (short : codec.FitsShort) {view : α → β} {unview : β → α}
    {view_unview : ∀ value, view (unview value) = value}
    {unview_view : ∀ raw, codec.Fits raw → unview (view raw) = raw} :
    (codec.map view unview view_unview unview_view).FitsShort :=
  fun value bounded => short (unview value) bounded

theorem FitsShort.pair {left : Codec α} {right : Codec β} (leftShort : left.FitsShort)
    (rightShort : right.FitsShort) : (left.pair right).FitsShort := by
  intro value bounded
  have length : (left.encode value.1).length + (right.encode value.2).length < 2 ^ 64 := by
    rw [← List.length_append]
    exact bounded
  exact ⟨leftShort value.1 (by omega), rightShort value.2 (by omega)⟩

theorem FitsShort.dependent {κ : Type} {Content : κ → Type} {head : Codec κ}
    {content : (kind : κ) → Codec (Content kind)} (headShort : head.FitsShort)
    (contentShort : ∀ kind, (content kind).FitsShort) :
    (head.dependent content).FitsShort := by
  intro value bounded
  have length :
      (head.encode value.1).length + ((content value.1).encode value.2).length < 2 ^ 64 := by
    rw [← List.length_append]
    exact bounded
  exact ⟨headShort value.1 (by omega), contentShort value.1 value.2 (by omega)⟩

theorem fits_short_word64 : word64.FitsShort := fun value _ => value.toNat_lt

theorem fits_short_word32 : word32.FitsShort := fun value _ => value.toNat_lt

theorem fits_short_signed64 : signed64.FitsShort := fits_short_word64.map

theorem fits_short_variant {bound : Nat} (small : bound ≤ 2 ^ 32) : (variant bound).FitsShort :=
  fun value _ => Nat.lt_of_lt_of_le value.isLt small

theorem fits_short_run (fault : DecodeFault) : (run fault).FitsShort := by
  intro value bounded
  have length : ((natural 8).encode value.length).length + value.length < 2 ^ 64 := by
    rw [← List.length_append]
    exact bounded
  exact Nat.lt_of_le_of_lt (Nat.le_add_left _ _) length

theorem fits_short_text : text.FitsShort :=
  fun value bounded => fits_short_run .shortRun (writeText value) bounded

theorem fits_short_digest : digest.FitsShort :=
  fun value bounded => fits_short_run .shortRun value.bytes bounded

theorem FitsShort.option {codec : Codec α} (short : codec.FitsShort) :
    (option codec).FitsShort := by
  intro value bounded content held
  cases held
  have length : ((natural 1).encode 1).length + (codec.encode content).length < 2 ^ 64 := by
    rw [← List.length_append]
    exact bounded
  exact short content (by omega)

/-- A list has no more entries than its written form has bytes, since no entry is written in none. -/
theorem entries_bounded {codec : Codec α} (written : ∀ value, 0 < (codec.encode value).length)
    (values : List α) :
    values.length ≤ (values.flatMap codec.encode).length ∧
      ∀ value ∈ values, (codec.encode value).length ≤ (values.flatMap codec.encode).length := by
  induction values with
  | nil => exact ⟨Nat.le_refl _, fun value member => absurd member List.not_mem_nil⟩
  | cons value later inductive_hypothesis =>
      have positive := written value
      rw [List.flatMap_cons, List.length_append, List.length_cons]
      constructor
      · omega
      · intro entry member
        cases List.mem_cons.mp member with
        | inl same =>
            rw [same]
            omega
        | inr inLater =>
            have bounded := inductive_hypothesis.2 entry inLater
            omega

theorem FitsShort.many {codec : Codec α} (short : codec.FitsShort)
    (written : ∀ value, 0 < (codec.encode value).length) : (many codec).FitsShort := by
  intro values bounded
  have length : ((natural 8).encode values.length).length +
      (values.flatMap codec.encode).length < 2 ^ 64 := by
    rw [← List.length_append]
    exact bounded
  have ⟨count, entry⟩ := entries_bounded written values
  exact ⟨by omega, fun value member => short value (by have := entry value member; omega)⟩

theorem fits_short_instant : instant.FitsShort := (fits_short_signed64.pair fits_short_word32).map

theorem fits_short_digests : (many digest).FitsShort :=
  fits_short_digest.many fun value => by
    show 0 < ((natural 8).encode value.bytes.length ++ value.bytes).length
    rw [List.length_append, value.size]
    omega

theorem fits_short_checkpoint : checkpoint.FitsShort :=
  (fits_short_word64.option.pair
    (fits_short_instant.option.pair (fits_short_digests.pair fits_short_digests))).map

theorem fits_short_state_value : stateValue.FitsShort := by
  refine (FitsShort.dependent (fits_short_variant (by decide)) fun tag => ?_).map
  match tag with
  | 0 => exact fits_short_checkpoint
  | 1 => exact fits_short_run _

theorem fits_short_state_change : stateChange.FitsShort :=
  (fits_short_text.pair fits_short_state_value).map

theorem fits_short_state_changes : stateChanges.FitsShort := by
  refine (fits_short_instant.pair (fits_short_state_change.many fun value => ?_)).map
  show 0 < (((natural 8).encode (writeText value.name).length ++ writeText value.name) ++
    stateValue.encode value.value).length
  rw [List.length_append, List.length_append]
  have counted : ((natural 8).encode (writeText value.name).length).length = 8 :=
    little_endian_length 8 _
  omega

theorem fits_short_header : header.FitsShort := by
  have algorithmShort : algorithm.FitsShort := (fits_short_variant (by decide)).map
  exact (fits_short_word64.pair (fits_short_instant.pair
    (fits_short_digest.pair (fits_short_text.pair algorithmShort)))).map

theorem fits_short_transaction : transaction.FitsShort := (fits_short_run _).map

theorem fits_short_transaction_result : transactionResult.FitsShort := by
  have outcomeShort : outcome.FitsShort := (fits_short_variant (by decide)).map
  exact (outcomeShort.pair (fits_short_instant.pair fits_short_word64)).map

theorem fits_short_record_file : recordFile.FitsShort :=
  (fits_short_instant.pair (fits_short_run _)).map

theorem fits_short_block_proof : blockProof.FitsShort :=
  (fits_short_word64.pair (fits_short_digest.pair
    ((fits_short_run _).pair fits_short_digests))).map

theorem fits_short_item : item.FitsShort := by
  refine (FitsShort.dependent (fits_short_variant (by decide)) fun tag => ?_).map
  match tag with
  | 0 => exact fits_short_header
  | 1 => exact fits_short_transaction
  | 2 => exact fits_short_transaction_result
  | 3 => exact fits_short_state_changes
  | 4 => exact fits_short_record_file
  | 5 => exact fits_short_block_proof

end Codec

namespace Item

theorem read_of_decoded {input suffix : Bytes} {item : Item}
    (decoded : Codec.item.decode input = .ok (item, suffix)) : read input = .ok item := by
  rw [read, decode, decoded]
  rfl

theorem read_of_fault {input : Bytes} {fault : DecodeFault}
    (decoded : Codec.item.decode input = .error fault) :
    read input = .error (.serialization fault.message) := by
  rw [read, decode, decoded]
  rfl

/-- What is read is the item whose written form the input begins with. -/
theorem read_iff {input : Bytes} {item : Item} :
    read input = .ok item ↔ item.Fits ∧ item.encode <+: input := by
  constructor
  · intro found
    rcases decoded : Codec.item.decode input with fault | ⟨first, suffix⟩
    · rw [read_of_fault decoded] at found
      contradiction
    · rw [read_of_decoded decoded, Except.ok.injEq] at found
      subst found
      have ⟨fits, whole⟩ := Codec.item.decode_sound decoded
      exact ⟨fits, suffix, whole.symm⟩
  · intro ⟨fits, suffix, whole⟩
    rw [← whole]
    exact read_of_decoded (Codec.item.decode_encode item suffix fits)

/-- An item is written without loss, in one way only, and so that its end can be told: it is read
back whatever follows it, only written forms are read, no written form is the beginning of another
one, and one that ends early is a fault of serialization. An item fits unless one of its texts or
lists is longer than any machine could hold. -/
theorem written_form_is_lossless_and_canonical :
    (∀ item : Item, item.Fits → ∀ suffix, read (item.encode ++ suffix) = .ok item) ∧
    (∀ input item, read input = .ok item →
      item.encode <+: input ∧ ∀ suffix, input = item.encode ++ suffix →
        (item.encode = input ↔ suffix = [])) ∧
    (∀ first second : Item, first.Fits → second.Fits →
      first.encode <+: second.encode → first = second) ∧
    (∀ item : Item, item.Fits → ∀ size < item.encode.length,
      ∃ reason, read (item.encode.take size) = .error (.serialization reason)) ∧
    (∀ item : Item, item.encode.length < 2 ^ 64 → item.Fits) := by
  refine ⟨?_, ?_, ?_, ?_, Codec.fits_short_item⟩
  · intro item fits suffix
    exact read_iff.mpr ⟨fits, suffix, rfl⟩
  · intro input item found
    refine ⟨(read_iff.mp found).2, ?_⟩
    intro suffix whole
    rw [whole]
    exact List.self_eq_append_right
  · intro first second firstFits secondFits begins
    exact Codec.item.encode_prefix_free firstFits secondFits begins
  · intro item fits size early
    have ⟨fault, decoded⟩ := Codec.item.decode_truncated fits early
    exact ⟨fault.message, read_of_fault decoded⟩

theorem proof_with_siblings_is_read_back :
    read ((Item.proof ⟨3, .zero, [1, 2], [.zero, .zero]⟩).encode ++ [7]) =
      .ok (.proof ⟨3, .zero, [1, 2], [.zero, .zero]⟩) := by
  have ⟨lossless, _, _, _, short⟩ := written_form_is_lossless_and_canonical
  have fits : (Item.proof ⟨3, .zero, [1, 2], [.zero, .zero]⟩).Fits :=
    short _ (by decide +kernel)
  exact lossless _ fits [7]

end Item
end ProvenBlocks
