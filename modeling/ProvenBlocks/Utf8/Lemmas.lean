import ProvenBlocks.Utf8

/-!
Reading undoes writing, and only written forms are read.
-/

namespace ProvenBlocks
namespace Utf8

theorem byte_value {value : Nat} (bounded : value < 256) : (UInt8.ofNat value).toNat = value := by
  simp; omega

theorem byte_of (byte : UInt8) {value : Nat} (same : value = byte.toNat) :
    UInt8.ofNat value = byte := by
  simp [same]

theorem scalar_range (character : Char) :
    character.toNat < 0xD800 ∨ 0xDFFF < character.toNat ∧ character.toNat < 0x110000 :=
  character.valid

theorem decode_from_encode_char (index : Nat) (seen : List Char) (character : Char)
    (rest : Bytes) :
    decodeFrom index seen (encodeChar character ++ rest)
      = decodeFrom (index + (encodeChar character).length) (character :: seen) rest := by
  have range := scalar_range character
  have same : Char.ofNat character.toNat = character := Char.ofNat_toNat character
  simp only [encodeChar]
  generalize character.toNat = code at *
  split
  · rename_i below
    have lead_value : (UInt8.ofNat code).toNat = code := byte_value (by omega)
    simp only [List.cons_append, List.nil_append]
    rw [decodeFrom.eq_def]
    simp only [lead_value, below, if_true, same,
      List.length_cons, List.length_nil]
  · split
    · have lead_value : (UInt8.ofNat (0xC0 + code / 64)).toNat = 0xC0 + code / 64 :=
        byte_value (by omega)
      have second_value : (UInt8.ofNat (0x80 + code % 64)).toNat = 0x80 + code % 64 :=
        byte_value (by omega)
      have second_ok : isContinuation (UInt8.ofNat (0x80 + code % 64)) = true := by
        simp only [isContinuation, second_value, Bool.and_eq_true, decide_eq_true_eq]
        omega
      have value : (0xC0 + code / 64 - 0xC0) * 64 + (0x80 + code % 64 - 0x80) = code := by omega
      have not_ascii : ¬ 0xC0 + code / 64 < 0x80 := by omega
      have not_stray : ¬ 0xC0 + code / 64 < 0xC2 := by omega
      have lead_two : 0xC0 + code / 64 < 0xE0 := by omega
      simp only [List.cons_append, List.nil_append]
      rw [decodeFrom.eq_def]
      simp only [lead_value, not_ascii, not_stray,
        lead_two, if_true, if_false, second_ok, char2, second_value, value, same,
        List.length_cons, List.length_nil]
    · split
      · have lead_value : (UInt8.ofNat (0xE0 + code / 4096)).toNat = 0xE0 + code / 4096 :=
          byte_value (by omega)
        have second_value :
            (UInt8.ofNat (0x80 + code / 64 % 64)).toNat = 0x80 + code / 64 % 64 :=
          byte_value (by omega)
        have third_value : (UInt8.ofNat (0x80 + code % 64)).toNat = 0x80 + code % 64 :=
          byte_value (by omega)
        have second_ok : isSecond (UInt8.ofNat (0xE0 + code / 4096))
            (UInt8.ofNat (0x80 + code / 64 % 64)) = true := by
          simp only [isSecond, isContinuation, lead_value, second_value, Bool.and_eq_true,
            Bool.or_eq_true, bne_iff_ne, decide_eq_true_eq]
          omega
        have third_ok : isContinuation (UInt8.ofNat (0x80 + code % 64)) = true := by
          simp only [isContinuation, third_value, Bool.and_eq_true, decide_eq_true_eq]
          omega
        have value : (0xE0 + code / 4096 - 0xE0) * 4096 + (0x80 + code / 64 % 64 - 0x80) * 64
            + (0x80 + code % 64 - 0x80) = code := by omega
        have not_ascii : ¬ 0xE0 + code / 4096 < 0x80 := by omega
        have not_stray : ¬ 0xE0 + code / 4096 < 0xC2 := by omega
        have not_two : ¬ 0xE0 + code / 4096 < 0xE0 := by omega
        have lead_three : 0xE0 + code / 4096 < 0xF0 := by omega
        simp only [List.cons_append, List.nil_append]
        rw [decodeFrom.eq_def]
        simp only [lead_value, not_ascii,
          not_stray, not_two, lead_three, if_true, if_false, second_ok, third_ok, char3,
          second_value, third_value, value, same, List.length_cons, List.length_nil]
      · have lead_value : (UInt8.ofNat (0xF0 + code / 262144)).toNat = 0xF0 + code / 262144 :=
          byte_value (by omega)
        have second_value :
            (UInt8.ofNat (0x80 + code / 4096 % 64)).toNat = 0x80 + code / 4096 % 64 :=
          byte_value (by omega)
        have third_value :
            (UInt8.ofNat (0x80 + code / 64 % 64)).toNat = 0x80 + code / 64 % 64 :=
          byte_value (by omega)
        have fourth_value : (UInt8.ofNat (0x80 + code % 64)).toNat = 0x80 + code % 64 :=
          byte_value (by omega)
        have second_ok : isSecond (UInt8.ofNat (0xF0 + code / 262144))
            (UInt8.ofNat (0x80 + code / 4096 % 64)) = true := by
          simp only [isSecond, isContinuation, lead_value, second_value, Bool.and_eq_true,
            Bool.or_eq_true, bne_iff_ne, decide_eq_true_eq]
          omega
        have third_ok : isContinuation (UInt8.ofNat (0x80 + code / 64 % 64)) = true := by
          simp only [isContinuation, third_value, Bool.and_eq_true, decide_eq_true_eq]
          omega
        have fourth_ok : isContinuation (UInt8.ofNat (0x80 + code % 64)) = true := by
          simp only [isContinuation, fourth_value, Bool.and_eq_true, decide_eq_true_eq]
          omega
        have value : (0xF0 + code / 262144 - 0xF0) * 262144
            + (0x80 + code / 4096 % 64 - 0x80) * 4096 + (0x80 + code / 64 % 64 - 0x80) * 64
            + (0x80 + code % 64 - 0x80) = code := by omega
        have not_ascii : ¬ 0xF0 + code / 262144 < 0x80 := by omega
        have not_stray : ¬ 0xF0 + code / 262144 < 0xC2 := by omega
        have not_two : ¬ 0xF0 + code / 262144 < 0xE0 := by omega
        have not_three : ¬ 0xF0 + code / 262144 < 0xF0 := by omega
        have lead_four : 0xF0 + code / 262144 < 0xF5 := by omega
        simp only [List.cons_append, List.nil_append]
        rw [decodeFrom.eq_def]
        simp only [lead_value, not_ascii,
          not_stray, not_two, not_three, lead_four, if_true, if_false, second_ok, third_ok,
          fourth_ok, char4, second_value, third_value, fourth_value, value, same,
          List.length_cons, List.length_nil]

theorem decode_from_encode (index : Nat) (seen characters : List Char) :
    decodeFrom index seen (encode characters) = .ok (seen.reverse ++ characters) := by
  induction characters generalizing index seen with
  | nil => simp [encode, decodeFrom]
  | cons character rest inductive_hypothesis =>
      rw [encode, List.flatMap_cons, decode_from_encode_char, ← encode, inductive_hypothesis]
      simp

theorem decode_encode (characters : List Char) : decode (encode characters) = .ok characters :=
  decode_from_encode 0 [] characters

theorem of_nat_value {code : Nat} (valid : code < 0xD800 ∨ 0xDFFF < code ∧ code < 0x110000) :
    (Char.ofNat code).toNat = code := by
  have isValid : code.isValidChar := valid
  rw [Char.ofNat, dif_pos isValid]
  rfl

theorem encode_char2 {lead second : UInt8} (low : ¬ lead.toNat < 0xC2) (high : lead.toNat < 0xE0)
    (second_ok : isContinuation second = true) :
    encodeChar (char2 lead second) = [lead, second] := by
  simp only [isContinuation, Bool.and_eq_true, decide_eq_true_eq] at second_ok
  have value : (char2 lead second).toNat
      = (lead.toNat - 0xC0) * 64 + (second.toNat - 0x80) := of_nat_value (by omega)
  simp only [encodeChar, value]
  rw [if_neg (by omega), if_pos (by omega)]
  rw [byte_of lead, byte_of second] <;> omega

theorem encode_char3 {lead second third : UInt8} (low : ¬ lead.toNat < 0xE0)
    (high : lead.toNat < 0xF0) (second_ok : isSecond lead second = true)
    (third_ok : isContinuation third = true) :
    encodeChar (char3 lead second third) = [lead, second, third] := by
  simp only [isSecond, isContinuation, Bool.and_eq_true, Bool.or_eq_true, bne_iff_ne,
    decide_eq_true_eq] at second_ok third_ok
  have value : (char3 lead second third).toNat
      = (lead.toNat - 0xE0) * 4096 + (second.toNat - 0x80) * 64 + (third.toNat - 0x80) :=
    of_nat_value (by omega)
  simp only [encodeChar, value]
  rw [if_neg (by omega), if_neg (by omega), if_pos (by omega)]
  rw [byte_of lead, byte_of second, byte_of third] <;> omega

theorem encode_char4 {lead second third fourth : UInt8} (low : ¬ lead.toNat < 0xF0)
    (high : lead.toNat < 0xF5) (second_ok : isSecond lead second = true)
    (third_ok : isContinuation third = true) (fourth_ok : isContinuation fourth = true) :
    encodeChar (char4 lead second third fourth) = [lead, second, third, fourth] := by
  simp only [isSecond, isContinuation, Bool.and_eq_true, Bool.or_eq_true, bne_iff_ne,
    decide_eq_true_eq] at second_ok third_ok fourth_ok
  have value : (char4 lead second third fourth).toNat
      = (lead.toNat - 0xF0) * 262144 + (second.toNat - 0x80) * 4096
        + (third.toNat - 0x80) * 64 + (fourth.toNat - 0x80) :=
    of_nat_value (by omega)
  simp only [encodeChar, value]
  rw [if_neg (by omega), if_neg (by omega), if_neg (by omega)]
  rw [byte_of lead, byte_of second, byte_of third, byte_of fourth] <;> omega

theorem encode_ascii {lead : UInt8} (ascii : lead.toNat < 0x80) :
    encodeChar (Char.ofNat lead.toNat) = [lead] := by
  have value : (Char.ofNat lead.toNat).toNat = lead.toNat := of_nat_value (by omega)
  simp only [encodeChar, value]
  rw [if_pos ascii]
  simp

theorem encode_append (first second : List Char) :
    encode (first ++ second) = encode first ++ encode second :=
  List.flatMap_append

theorem encode_of_decode_from {index : Nat} {seen characters : List Char} {bytes : Bytes}
    (decoded : decodeFrom index seen bytes = .ok characters) :
    encode characters = encode seen.reverse ++ bytes := by
  fun_induction decodeFrom index seen bytes generalizing characters <;>
    simp_all [encode, encode_ascii, encode_char2, encode_char3, encode_char4]

theorem encode_of_decode {bytes : Bytes} {characters : List Char}
    (decoded : decode bytes = .ok characters) : encode characters = bytes := by
  simpa [encode] using encode_of_decode_from decoded

end Utf8
end ProvenBlocks
