import ProvenBlocks.Environment
import ProvenBlocks.Settings

/-!
Stream settings from the environment. Numbers are read first, and the settings as a whole are
judged last.
-/

namespace ProvenBlocks
namespace StreamSettings

def badNumber (bad : BadNumber) : StreamError :=
  .invalidSettings (bad.name ++ "=" ++ bad.raw ++ ": " ++ bad.fault.message)

def readEnvironment (environment : Environment) : Except BadNumber StreamSettings := do
  let rounds ← environment.word32? "QC_BLOCK_STREAM_ROUNDS_PER_BLOCK"
  let capacity ← environment.word64? "QC_SIGNATURE_CHANNEL_CAPACITY"
  .ok {
    roundsPerBlock := rounds.getD default.roundsPerBlock
    softwareVersion := default.softwareVersion
    blockDirectory := (environment.get? "QC_BLOCK_STREAM_DIR").getD default.blockDirectory
    statePath := (environment.get? "QC_BLOCK_STREAM_STATE_PATH").getD default.statePath
    signatureCapacity := capacity.getD default.signatureCapacity }

def ofEnvironment (environment : Environment) : Except StreamError StreamSettings := do
  let settings ← (readEnvironment environment).mapError badNumber
  settings.validate
  .ok settings

end StreamSettings
end ProvenBlocks
