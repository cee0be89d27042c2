import ProvenBlocks.CommandLine
import ProvenBlocks.FileTree.Changes
import Std.Time.DateTime.Timestamp

/-!
The program. What a run may look at is read beforehand: the environment, the clock, entropy, and
the places on the disk that its paths lead through. What it has changed is written afterwards.
-/

namespace ProvenBlocks

def diskPath (location : Location) : String := "/" ++ "/".intercalate location

/-- Adds a place to the tree as it is on the disk; what cannot be read counts as a directory. -/
def readPlace (tree : FileTree) (location : Location) : IO FileTree := do
  try
    let content ← IO.FS.readBinFile (diskPath location)
    return tree.addFile location content.toList
  catch
    | .noFileOrDirectory .. => return tree
    | _ => return tree.addDirectory location

def readDisk (paths : List String) : IO FileTree := do
  let tree := FileTree.ofWorkingDirectory (Path.names (← IO.currentDir).toString)
  (paths.flatMap tree.places).foldlM readPlace tree

def writeChange : DiskChange → IO Unit
  | .makeDirectory location => IO.FS.createDirAll (diskPath location)
  | .writeFile location content => IO.FS.writeBinFile (diskPath location) ⟨content.toArray⟩
  | .removeFile location => IO.FS.removeFile (diskPath location)

def readEnvironment : IO Environment :=
  CommandLine.variableNames.filterMapM fun name => do
    return (← IO.getEnv name).map fun value => (name, value)

def readClock : IO Instant := do
  let nanos := (← Std.Time.Timestamp.now).toNanosecondsSinceUnixEpoch.toInt
  return ⟨.ofInt (nanos / Instant.nanosPerSecond), .ofNat (nanos % Instant.nanosPerSecond).toNat⟩

def runOnDisk : IO UInt32 := do
  let environment ← readEnvironment
  let before ← readDisk (CommandLine.paths environment)
  let entropy := ofLittleEndian (← IO.getRandomBytes 8).toList
  let result := CommandLine.run environment before (← readClock) (.standard entropy)
  (before.changes result.tree).forM writeChange
  result.log.forM fun event => IO.println event.line
  IO.eprint result.errorText
  return result.exitCode

end ProvenBlocks

def main : IO UInt32 := ProvenBlocks.runOnDisk
