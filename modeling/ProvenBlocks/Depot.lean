import ProvenBlocks.Item.Encoding
import ProvenBlocks.Script
import ProvenBlocks.StateFile
import ProvenBlocks.Writer

/-!
A depot keeps what the stream leaves behind: its writers with what they wrote, and the stored
checkpoint. It is a platform on which scripts run.
-/

namespace ProvenBlocks

/-- Where blocks go: into the log, or into the files of a directory. -/
inductive BlockSink where
  | log
  | directory (path : String)

inductive CheckpointStore where
  | memory (stored : Option Checkpoint)
  | file (path : String)

/-- Writers are numbered in the order of their creation. -/
structure Depot where
  sink : BlockSink
  store : CheckpointStore
  medium : Medium
  writers : List (WriterId × Writer)
  created : Nat
  saves : Nat

namespace Depot

def empty (sink : BlockSink) (store : CheckpointStore) : Depot :=
  ⟨sink, store, .empty, [], 0, 0⟩

def tree (depot : Depot) : FileTree := depot.medium.tree

def setTree (depot : Depot) (tree : FileTree) : Depot :=
  { depot with medium := { depot.medium with tree := tree } }

def setFailing (depot : Depot) (call : Option FailingCall) : Depot :=
  { depot with medium := { depot.medium with failing := call } }

def newWriter : BlockSink → Writer
  | .log => .log none
  | .directory path => .file ⟨path, none⟩

def create (depot : Depot) : Except IoFault WriterId × Depot :=
  if depot.medium.failing = some .create then (.error (Writer.injected "create"), depot)
  else
    (.ok depot.created, { depot with
      writers := (depot.created, newWriter depot.sink) :: depot.writers
      created := depot.created + 1 })

def replaceWriter (writer : WriterId) (replacement : Writer) (entry : WriterId × Writer) :
    WriterId × Writer :=
  if entry.1 = writer then (entry.1, replacement) else entry

/-- Lets a writer work on the medium. -/
def withWriter (depot : Depot) (writer : WriterId)
    (work : Writer → Medium → Except IoFault Unit × Writer × Medium) :
    Except IoFault Unit × Depot :=
  match depot.writers.lookup writer with
  | none => (.error Writer.noBlockOpen, depot)
  | some found =>
      let (answer, found, medium) := work found depot.medium
      (answer, { depot with
        medium := medium
        writers := depot.writers.map (replaceWriter writer found) })

def openBlock (depot : Depot) (writer : WriterId) (number : UInt64) :
    Except IoFault Unit × Depot :=
  depot.withWriter writer fun found medium => found.openBlock number medium

def writeItem (depot : Depot) (writer : WriterId) (content : Bytes) :
    Except IoFault Unit × Depot :=
  depot.withWriter writer fun found medium => found.writeItem content medium

def closeBlock (depot : Depot) (writer : WriterId) : Except IoFault Unit × Depot :=
  depot.withWriter writer Writer.closeBlock

def release (depot : Depot) (writer : WriterId) : Depot :=
  match depot.writers.lookup writer with
  | none => depot
  | some found =>
      { depot with
        medium := found.release depot.medium
        writers := depot.writers.filter fun entry => entry.1 != writer }

def load (depot : Depot) : Except StreamError (Option Checkpoint) :=
  match depot.store with
  | .memory stored => .ok stored
  | .file path => StateFile.load depot.tree path

def save (depot : Depot) (checkpoint : Checkpoint) : Except StreamError Unit × Depot :=
  if depot.medium.failing = some .save then
    (.error (.stateStore "injected save failure"), depot)
  else
    match depot.store with
    | .memory _ =>
        (.ok (), { depot with store := .memory (some checkpoint), saves := depot.saves + 1 })
    | .file path =>
        match StateFile.save depot.tree path checkpoint with
        | (.error error, tree) => (.error error, depot.setTree tree)
        | (.ok (), tree) => (.ok (), { depot.setTree tree with saves := depot.saves + 1 })

def platform : Platform Depot where
  create := create
  openBlock := fun writer number depot => depot.openBlock writer number
  writeItem := fun writer content depot => depot.writeItem writer content
  closeBlock := fun writer depot => depot.closeBlock writer
  release := fun writer depot => depot.release writer
  save := fun checkpoint depot => depot.save checkpoint

/-! ### The log -/

def events (depot : Depot) : Array WriterEvent := depot.medium.log

def loggedItem? (block : UInt64) : WriterEvent → Option Item
  | .item number content => if number = block then (Item.decode content).toOption else none
  | .opened _ | .closed _ => none

/-- The items logged for a block, less what is no item. -/
def itemsOf (depot : Depot) (block : UInt64) : List Item :=
  depot.events.toList.filterMap (loggedItem? block)

def openedBlock? : WriterEvent → Option UInt64
  | .opened number => some number
  | .item _ _ | .closed _ => none

def closedBlock? : WriterEvent → Option UInt64
  | .closed number => some number
  | .opened _ | .item _ _ => none

def openedBlocks (depot : Depot) : List UInt64 := depot.events.toList.filterMap openedBlock?

def closedBlocks (depot : Depot) : List UInt64 := depot.events.toList.filterMap closedBlock?

end Depot
end ProvenBlocks
