/-!
Bytes and fixed-width words: arithmetic that stops instead of wrapping, sizes that stop where no
memory could hold them, and the little-endian bytes of a word with their inverse.
-/

namespace ProvenBlocks

-- A power means the same beside an algebra library.
attribute [local instance (20000)] instPowNat

abbrev Bytes := List UInt8

/-- A result that leaves its word, or a size beyond all memory, stops the program. -/
inductive Overflow where
  | addition
  | subtraction
  | multiplication
  | capacity
  deriving DecidableEq

def Overflow.message : Overflow → String
  | .addition => "attempt to add with overflow"
  | .subtraction => "attempt to subtract with overflow"
  | .multiplication => "attempt to multiply with overflow"
  | .capacity => "capacity overflow"

def checkedAdd (left right : UInt64) : Except Overflow UInt64 :=
  if left.toNat + right.toNat < 2 ^ (64 : Nat) then .ok (left + right) else .error .addition

def checkedSub (left right : UInt64) : Except Overflow UInt64 :=
  if right.toNat ≤ left.toNat then .ok (left - right) else .error .subtraction

def checkedMul (left right : UInt64) : Except Overflow UInt64 :=
  if left.toNat * right.toNat < 2 ^ (64 : Nat) then .ok (left * right) else .error .multiplication

/-- Room for that many values of a size in bytes, which must be less than half of all addresses. -/
def checkedRoom (count size : Nat) : Except Overflow Unit :=
  if count * size < 2 ^ (63 : Nat) then .ok () else .error .capacity

def checkedSucc (value : UInt64) : Except Overflow UInt64 :=
  checkedAdd value 1

theorem checked_succ_ok {value : UInt64} (bounded : value.toNat < 2 ^ (64 : Nat) - 1) :
    checkedSucc value = .ok (value + 1) := by
  have fits : value.toNat + 1 < 2 ^ (64 : Nat) := by omega
  simp only [checkedSucc, checkedAdd]
  exact if_pos fits

theorem checked_succ_overflow {value : UInt64} (full : value.toNat = 2 ^ (64 : Nat) - 1) :
    checkedSucc value = .error .addition := by
  have exceeds : ¬ value.toNat + 1 < 2 ^ (64 : Nat) := by omega
  simp only [checkedSucc, checkedAdd]
  exact if_neg exceeds

def littleEndian : Nat → Nat → Bytes
  | 0, _ => []
  | width + 1, value => UInt8.ofNat value :: littleEndian width (value / 256)

def ofLittleEndian : Bytes → Nat
  | [] => 0
  | byte :: rest => byte.toNat + 256 * ofLittleEndian rest

@[simp] theorem little_endian_length (width value : Nat) :
    (littleEndian width value).length = width := by
  induction width generalizing value with
  | zero => rfl
  | succ width inductive_hypothesis => simp [littleEndian, inductive_hypothesis]

theorem of_little_endian_lt (bytes : Bytes) :
    ofLittleEndian bytes < 256 ^ bytes.length := by
  induction bytes with
  | nil => simp [ofLittleEndian]
  | cons byte rest inductive_hypothesis =>
      have byte_lt := byte.toNat_lt
      simp only [ofLittleEndian, List.length_cons, Nat.pow_succ]
      omega

theorem of_little_endian_little_endian {width value : Nat} (bounded : value < 256 ^ width) :
    ofLittleEndian (littleEndian width value) = value := by
  induction width generalizing value with
  | zero => simp at bounded; simp [littleEndian, ofLittleEndian, bounded]
  | succ width inductive_hypothesis =>
      have quotient_bounded : value / 256 < 256 ^ width := by
        rw [Nat.pow_succ] at bounded
        omega
      simp only [littleEndian, ofLittleEndian, inductive_hypothesis quotient_bounded]
      have byte_value : (UInt8.ofNat value).toNat = value % 256 := by simp
      omega

theorem little_endian_of_little_endian (bytes : Bytes) :
    littleEndian bytes.length (ofLittleEndian bytes) = bytes := by
  induction bytes with
  | nil => rfl
  | cons byte rest inductive_hypothesis =>
      have byte_lt := byte.toNat_lt
      have quotient :
          (byte.toNat + 256 * ofLittleEndian rest) / 256 = ofLittleEndian rest := by omega
      have low : UInt8.ofNat (byte.toNat + 256 * ofLittleEndian rest) = byte := by
        apply UInt8.toNat_inj.mp
        simp
      simp only [List.length_cons, ofLittleEndian, littleEndian, quotient, low,
        inductive_hypothesis]

def hexDigit (value : Nat) : Char :=
  if value < 10 then Char.ofNat ('0'.toNat + value) else Char.ofNat ('a'.toNat + (value - 10))

/-- Lowercase hexadecimal text, two digits a byte. -/
def hexText (bytes : Bytes) : String :=
  String.ofList
    (bytes.flatMap fun byte => [hexDigit (byte.toNat / 16), hexDigit (byte.toNat % 16)])

end ProvenBlocks
