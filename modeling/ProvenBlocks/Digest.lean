import ProvenBlocks.Sha384

/-!
Digests of 48 bytes and the two ways blocks join them: a digest of two digests, and the left fold
of that operation over a list of steps.
-/

namespace ProvenBlocks

structure Digest where
  bytes : Bytes
  size : bytes.length = 48
  deriving DecidableEq

/-- A byte list that is no digest. -/
structure WrongDigestLength where
  actual : Nat

def WrongDigestLength.message (fault : WrongDigestLength) : String :=
  "Invalid hash length: expected 48, got " ++ toString fault.actual

namespace Digest

def zero : Digest := ⟨List.replicate 48 0, rfl⟩

def of (message : Bytes) : Digest := ⟨Sha384.digestBytes message, rfl⟩

def ofBytes (bytes : Bytes) : Except WrongDigestLength Digest :=
  if size : bytes.length = 48 then .ok ⟨bytes, size⟩ else .error ⟨bytes.length⟩

def link (left right : Digest) : Digest := of (left.bytes ++ right.bytes)

def linkAll (start : Digest) (steps : List Digest) : Digest := steps.foldl link start

def hex (digest : Digest) : String := hexText digest.bytes

/-- The first eight bytes, enough to tell digests apart in a log line. -/
def shortHex (digest : Digest) : String := hexText (digest.bytes.take 8)

theorem link_all_append (start : Digest) (first second : List Digest) :
    start.linkAll (first ++ second) = (start.linkAll first).linkAll second :=
  List.foldl_append

theorem of_bytes_bytes (digest : Digest) : ofBytes digest.bytes = .ok digest := by
  simp [ofBytes, digest.size]

end Digest

/-- A digest computed from parts; taking the digest starts the next message. -/
structure Hasher where
  received : Bytes

namespace Hasher

def empty : Hasher := ⟨[]⟩

def update (hasher : Hasher) (part : Bytes) : Hasher := ⟨hasher.received ++ part⟩

def finish (hasher : Hasher) : Digest × Hasher := (Digest.of hasher.received, empty)

end Hasher
end ProvenBlocks
