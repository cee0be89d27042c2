import ProvenBlocks.Checkpoint.Json
import ProvenBlocks.FileTree
import ProvenBlocks.Json.Parser
import ProvenBlocks.Utf8

/-!
The stored checkpoint as a JSON file. Saving writes a temporary file beside it and moves that over
the file, so the file holds an old checkpoint or a new one and never a part.
-/

namespace ProvenBlocks
namespace StateFile

def temporaryPath (path : String) : String :=
  Path.withFileName path ((Path.fileName? path).getD "" ++ ".tmp")

def fault (action path reason : String) : StreamError :=
  .stateStore (action ++ " " ++ path ++ ": " ++ reason)

def text (checkpoint : Checkpoint) : List Char := (Schema.checkpoint.write checkpoint).indentedText

def ofText (content : List Char) : Option Checkpoint :=
  (Json.parseChars content).bind Schema.checkpoint.read

/-- A file that is not there is no fault. -/
def load (tree : FileTree) (path : String) : Except StreamError (Option Checkpoint) :=
  match tree.read path with
  | .error (.system .noEntry) => .ok none
  | .error fault => .error (StateFile.fault "read" path fault.message)
  | .ok content =>
      match Utf8.decode content with
      | .error _ => .error (StateFile.fault "read" path "stream did not contain valid UTF-8")
      | .ok content =>
          match ofText content with
          | none => .error (.stateStore ("parse " ++ path))
          | some checkpoint => .ok (some checkpoint)

/-- Faults of the medium during one save. Directories may be made down to some level above the one
that is wanted. A write that fails may not have begun, or leaves a part of the content. -/
structure Disturbance where
  directories : Option (Nat × SystemFault)
  content : Option (Option Nat × SystemFault)
  move : Option SystemFault

def Disturbance.none : Disturbance := ⟨.none, .none, .none⟩

/-- The directory some levels above a path. -/
def ancestor (path : String) : Nat → String
  | 0 => path
  | levels + 1 =>
      match Path.parent? path with
      | none => ""
      | some parent => ancestor parent levels

def makeParent (tree : FileTree) (path : String) (disturbance : Option (Nat × SystemFault)) :
    Except StreamError Unit × FileTree :=
  let parent := (Path.parent? path).getD ""
  if parent == "" then (.ok (), tree)
  else
    match disturbance with
    | some (levels, fault) =>
        (.error (StateFile.fault "create" parent fault.message),
          (tree.makeDirectories (ancestor parent levels)).2)
    | none =>
        let (made, tree) := tree.makeDirectories parent
        (made.mapError fun fault => StateFile.fault "create" parent fault.message, tree)

/-- What a write leaves that stops after some bytes. -/
def writePart (tree : FileTree) (path : String) (content : Bytes) : Option Nat → FileTree
  | none => tree
  | some written =>
      match tree.write path (content.take written) with
      | .ok after => after
      | .error _ => tree

def writeTemporary (tree : FileTree) (path : String) (content : Bytes)
    (disturbance : Option (Option Nat × SystemFault)) : Except StreamError Unit × FileTree :=
  match disturbance with
  | some (written, fault) =>
      (.error (StateFile.fault "write" path fault.message), writePart tree path content written)
  | none =>
      match tree.write path content with
      | .ok after => (.ok (), after)
      | .error fault => (.error (StateFile.fault "write" path fault.message), tree)

def replace (tree : FileTree) (temporary path : String) (disturbance : Option SystemFault) :
    Except StreamError Unit × FileTree :=
  match disturbance with
  | some fault => (.error (StateFile.fault "rename" path fault.message), tree)
  | none =>
      match tree.rename temporary path with
      | .ok after => (.ok (), after)
      | .error fault => (.error (StateFile.fault "rename" path fault.message), tree)

def saveDisturbed (disturbance : Disturbance) (tree : FileTree) (path : String)
    (checkpoint : Checkpoint) : Except StreamError Unit × FileTree :=
  match makeParent tree path disturbance.directories with
  | (.error error, tree) => (.error error, tree)
  | (.ok (), tree) =>
      let temporary := temporaryPath path
      let content := Utf8.encode (text checkpoint)
      match writeTemporary tree temporary content disturbance.content with
      | (.error error, tree) => (.error error, tree)
      | (.ok (), tree) => replace tree temporary path disturbance.move

def save (tree : FileTree) (path : String) (checkpoint : Checkpoint) :
    Except StreamError Unit × FileTree :=
  saveDisturbed .none tree path checkpoint

end StateFile
end ProvenBlocks
