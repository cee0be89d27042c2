import ProvenBlocks.Digest

/-!
Signatures of the ledger over block hashes, and the stand-in signer that signs by hashing.
-/

namespace ProvenBlocks

/-- A signature and the hash that it covers. -/
structure Signature where
  message : Digest
  content : Bytes
  deriving DecidableEq

namespace Signature

/-- The stand-in signature is the digest of the hash. -/
def standIn (message : Digest) : Signature := ⟨message, (Digest.of message.bytes).bytes⟩

def shortHex (signature : Signature) : String := signature.message.shortHex

end Signature
end ProvenBlocks
