import ProvenBlocks.Failure

/-!
Settings of the stream, their defaults, and the values that the stream cannot run with.
-/

namespace ProvenBlocks

def softwareVersion : String := "0.1.0"

def defaultCapacity : UInt64 := 1000

structure StreamSettings where
  roundsPerBlock : UInt32
  softwareVersion : String
  blockDirectory : String
  statePath : String
  signatureCapacity : UInt64
  deriving DecidableEq

namespace StreamSettings

def default : StreamSettings where
  roundsPerBlock := 1
  softwareVersion := ProvenBlocks.softwareVersion
  blockDirectory := "data/blocks"
  statePath := "data/block_stream_state.json"
  signatureCapacity := defaultCapacity

/-- Both counts must be positive; the rounds are judged first. -/
def validate (settings : StreamSettings) : Except StreamError Unit :=
  if settings.roundsPerBlock = 0 then
    .error (.invalidSettings "rounds_per_block must be at least 1")
  else if settings.signatureCapacity = 0 then
    .error (.invalidSettings "signature_channel_capacity must be at least 1")
  else .ok ()

end StreamSettings
end ProvenBlocks
