import ProvenBlocks.BlockFile

/-!
Writers of blocks: into a log that all writers of one set share, or into files. A writer takes one
block after another. Calls of writers into the log can be made to fail.
-/

namespace ProvenBlocks

/-- What writers into the log have done, in order. -/
inductive WriterEvent where
  | opened (block : UInt64)
  | item (block : UInt64) (content : Bytes)
  | closed (block : UInt64)
  deriving DecidableEq

/-- The call that is made to fail. -/
inductive FailingCall where
  | create
  | openBlock
  | writeItem
  | closeBlock
  | save
  deriving DecidableEq

inductive Writer where
  | log (block : Option UInt64)
  | file (writer : FileWriter)

/-- What writers write to. -/
structure Medium where
  tree : FileTree
  log : Array WriterEvent
  failing : Option FailingCall

namespace Medium

def empty : Medium := ⟨FileTree.empty, #[], none⟩

def record (medium : Medium) (event : WriterEvent) : Medium :=
  { medium with log := medium.log.push event }

end Medium

namespace Writer

def noBlockOpen : IoFault := .reported .other "no block open"

def injected (call : String) : IoFault := .reported .other ("injected " ++ call ++ " failure")

def openBlock (writer : Writer) (number : UInt64) (medium : Medium) :
    Except IoFault Unit × Writer × Medium :=
  match writer with
  | .log _ =>
      if medium.failing = some .openBlock then (.error (injected "Open"), writer, medium)
      else (.ok (), .log (some number), medium.record (.opened number))
  | .file files =>
      let (answer, files, tree) := files.openBlock number medium.tree
      (answer, .file files, { medium with tree := tree })

def writeItem (writer : Writer) (content : Bytes) (medium : Medium) :
    Except IoFault Unit × Writer × Medium :=
  match writer with
  | .log opened =>
      if medium.failing = some .writeItem then (.error (injected "Write"), writer, medium)
      else
        match opened with
        | none => (.error noBlockOpen, writer, medium)
        | some block => (.ok (), writer, medium.record (.item block content))
  | .file files =>
      let (answer, files, tree) := files.writeItem content medium.tree
      (answer, .file files, { medium with tree := tree })

def closeBlock (writer : Writer) (medium : Medium) : Except IoFault Unit × Writer × Medium :=
  match writer with
  | .log opened =>
      if medium.failing = some .closeBlock then (.error (injected "Close"), writer, medium)
      else
        match opened with
        | none => (.error noBlockOpen, writer, medium)
        | some block => (.ok (), .log none, medium.record (.closed block))
  | .file files =>
      let (answer, files, tree) := files.closeBlock medium.tree
      (answer, .file files, { medium with tree := tree })

/-- A writer that is let go passes on what it still holds. -/
def release (writer : Writer) (medium : Medium) : Medium :=
  match writer with
  | .log _ => medium
  | .file files => { medium with tree := (files.release medium.tree).2 }

end Writer
end ProvenBlocks
