import ProvenBlocks.Word

/-!
SHA-384 over byte lists: big-endian 64-bit words, blocks of 128 bytes, and the first 48 bytes of
the final words.
-/

namespace ProvenBlocks
namespace Sha384

structure Registers where
  a : UInt64
  b : UInt64
  c : UInt64
  d : UInt64
  e : UInt64
  f : UInt64
  g : UInt64
  h : UInt64

def initial : Registers :=
  ⟨0xcbbb9d5dc1059ed8, 0x629a292a367cd507, 0x9159015a3070dd17, 0x152fecd8f70e5939,
    0x67332667ffc00b31, 0x8eb44a8768581511, 0xdb0c2e0d64f98fa7, 0x47b5481dbefa4fa4⟩

def roundConstants : List UInt64 := [
  0x428a2f98d728ae22, 0x7137449123ef65cd, 0xb5c0fbcfec4d3b2f, 0xe9b5dba58189dbbc,
  0x3956c25bf348b538, 0x59f111f1b605d019, 0x923f82a4af194f9b, 0xab1c5ed5da6d8118,
  0xd807aa98a3030242, 0x12835b0145706fbe, 0x243185be4ee4b28c, 0x550c7dc3d5ffb4e2,
  0x72be5d74f27b896f, 0x80deb1fe3b1696b1, 0x9bdc06a725c71235, 0xc19bf174cf692694,
  0xe49b69c19ef14ad2, 0xefbe4786384f25e3, 0x0fc19dc68b8cd5b5, 0x240ca1cc77ac9c65,
  0x2de92c6f592b0275, 0x4a7484aa6ea6e483, 0x5cb0a9dcbd41fbd4, 0x76f988da831153b5,
  0x983e5152ee66dfab, 0xa831c66d2db43210, 0xb00327c898fb213f, 0xbf597fc7beef0ee4,
  0xc6e00bf33da88fc2, 0xd5a79147930aa725, 0x06ca6351e003826f, 0x142929670a0e6e70,
  0x27b70a8546d22ffc, 0x2e1b21385c26c926, 0x4d2c6dfc5ac42aed, 0x53380d139d95b3df,
  0x650a73548baf63de, 0x766a0abb3c77b2a8, 0x81c2c92e47edaee6, 0x92722c851482353b,
  0xa2bfe8a14cf10364, 0xa81a664bbc423001, 0xc24b8b70d0f89791, 0xc76c51a30654be30,
  0xd192e819d6ef5218, 0xd69906245565a910, 0xf40e35855771202a, 0x106aa07032bbd1b8,
  0x19a4c116b8d2d0c8, 0x1e376c085141ab53, 0x2748774cdf8eeb99, 0x34b0bcb5e19b48a8,
  0x391c0cb3c5c95a63, 0x4ed8aa4ae3418acb, 0x5b9cca4f7763e373, 0x682e6ff3d6b2b8a3,
  0x748f82ee5defb2fc, 0x78a5636f43172f60, 0x84c87814a1f0ab72, 0x8cc702081a6439ec,
  0x90befffa23631e28, 0xa4506cebde82bde9, 0xbef9a3f7b2c67915, 0xc67178f2e372532b,
  0xca273eceea26619c, 0xd186b8c721c0c207, 0xeada7dd6cde0eb1e, 0xf57d4f7fee6ed178,
  0x06f067aa72176fba, 0x0a637dc5a2c898a6, 0x113f9804bef90dae, 0x1b710b35131c471b,
  0x28db77f523047d84, 0x32caab7b40c72493, 0x3c9ebe0a15c9bebc, 0x431d67c49c100d4c,
  0x4cc5d4becb3e42b6, 0x597f299cfc657e2a, 0x5fcb6fab3ad6faec, 0x6c44198c4a475817]

def rotateRight (word : UInt64) (amount : UInt64) : UInt64 :=
  (word >>> amount) ||| (word <<< (64 - amount))

def mixSmall0 (word : UInt64) : UInt64 :=
  rotateRight word 1 ^^^ rotateRight word 8 ^^^ (word >>> 7)

def mixSmall1 (word : UInt64) : UInt64 :=
  rotateRight word 19 ^^^ rotateRight word 61 ^^^ (word >>> 6)

def mixLarge0 (word : UInt64) : UInt64 :=
  rotateRight word 28 ^^^ rotateRight word 34 ^^^ rotateRight word 39

def mixLarge1 (word : UInt64) : UInt64 :=
  rotateRight word 14 ^^^ rotateRight word 18 ^^^ rotateRight word 41

def bigEndianWord (a b c d e f g h : UInt8) : UInt64 :=
  (a.toUInt64 <<< 56) ||| (b.toUInt64 <<< 48) ||| (c.toUInt64 <<< 40) ||| (d.toUInt64 <<< 32)
    ||| (e.toUInt64 <<< 24) ||| (f.toUInt64 <<< 16) ||| (g.toUInt64 <<< 8) ||| h.toUInt64

def bigEndianBytes (word : UInt64) : Bytes :=
  [(word >>> 56).toUInt8, (word >>> 48).toUInt8, (word >>> 40).toUInt8, (word >>> 32).toUInt8,
    (word >>> 24).toUInt8, (word >>> 16).toUInt8, (word >>> 8).toUInt8, word.toUInt8]

/-- The words of eight bytes each; bytes that fill no word are left out. -/
def words : Bytes → List UInt64
  | a :: b :: c :: d :: e :: f :: g :: h :: later => bigEndianWord a b c d e f g h :: words later
  | _ => []

/-- Sixteen consecutive words of the schedule, the next one to be taken in first. -/
structure Schedule where
  w0 : UInt64
  w1 : UInt64
  w2 : UInt64
  w3 : UInt64
  w4 : UInt64
  w5 : UInt64
  w6 : UInt64
  w7 : UInt64
  w8 : UInt64
  w9 : UInt64
  w10 : UInt64
  w11 : UInt64
  w12 : UInt64
  w13 : UInt64
  w14 : UInt64
  w15 : UInt64

def Schedule.ofWords : List UInt64 → Schedule
  | [a, b, c, d, e, f, g, h, i, j, k, l, m, n, o, p] =>
      ⟨a, b, c, d, e, f, g, h, i, j, k, l, m, n, o, p⟩
  | _ => ⟨0, 0, 0, 0, 0, 0, 0, 0, 0, 0, 0, 0, 0, 0, 0, 0⟩

def Schedule.next (schedule : Schedule) : Schedule :=
  let ⟨w0, w1, w2, w3, w4, w5, w6, w7, w8, w9, w10, w11, w12, w13, w14, w15⟩ := schedule
  ⟨w1, w2, w3, w4, w5, w6, w7, w8, w9, w10, w11, w12, w13, w14, w15,
    mixSmall1 w14 + w9 + mixSmall0 w1 + w0⟩

def round (registers : Registers) (constant word : UInt64) : Registers :=
  let ⟨a, b, c, d, e, f, g, h⟩ := registers
  let choice := (e &&& f) ^^^ ((e ^^^ 0xffffffffffffffff) &&& g)
  let majority := (a &&& b) ^^^ (a &&& c) ^^^ (b &&& c)
  let first := h + mixLarge1 e + choice + constant + word
  let second := mixLarge0 a + majority
  ⟨first + second, a, b, c, d + first, e, f, g⟩

def rounds : List UInt64 → Schedule → Registers → Registers
  | [], _, registers => registers
  | constant :: later, schedule, registers =>
      rounds later schedule.next (round registers constant schedule.w0)

def Registers.add (left right : Registers) : Registers :=
  ⟨left.a + right.a, left.b + right.b, left.c + right.c, left.d + right.d,
    left.e + right.e, left.f + right.f, left.g + right.g, left.h + right.h⟩

def compress (registers : Registers) (block : List UInt64) : Registers :=
  registers.add (rounds roundConstants (.ofWords block) registers)

/-- Takes in the first `count` blocks of sixteen words. -/
def compressAll : Nat → Registers → List UInt64 → Registers
  | 0, registers, _ => registers
  | count + 1, registers, words =>
      compressAll count (compress registers (words.take 16)) (words.drop 16)

/-- A one bit, zeros up to the last 16 bytes of a block, and the length in bits. -/
def pad (message : Bytes) : Bytes :=
  message ++ 0x80 :: (List.replicate ((239 - message.length % 128) % 128) 0
    ++ (littleEndian 16 (8 * message.length)).reverse)

def registerBytes (registers : Registers) : Bytes :=
  bigEndianBytes registers.a ++ bigEndianBytes registers.b ++ bigEndianBytes registers.c
    ++ bigEndianBytes registers.d ++ bigEndianBytes registers.e ++ bigEndianBytes registers.f

def digestBytes (message : Bytes) : Bytes :=
  let padded := pad message
  registerBytes (compressAll (padded.length / 128) initial (words padded))

theorem digest_bytes_length (message : Bytes) : (digestBytes message).length = 48 := rfl

end Sha384
end ProvenBlocks
