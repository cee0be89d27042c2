import ProvenBlocks.Decimal.Fixed
import ProvenBlocks.FileTree

/-!
Block files: one file a block, named by its number in 36 digits, holding each item behind its
length in four little-endian bytes. A writer collects up to 8192 bytes before it passes them on;
longer pieces go through at once.
-/

namespace ProvenBlocks

-- A power means the same beside an algebra library.
attribute [local instance (20000)] instPowNat

namespace BlockFile

def fileName (number : UInt64) : String := Decimal.padLeft 36 (toString number) ++ ".blk"

def path (directory : String) (number : UInt64) : String := Path.join directory (fileName number)

def frame (item : Bytes) : Bytes := littleEndian 4 item.length ++ item

def frames (items : List Bytes) : Bytes := items.flatMap frame

inductive FrameFault where
  | truncatedLength
  | truncatedItem
  deriving DecidableEq

def FrameFault.toIoFault : FrameFault → IoFault
  | .truncatedLength => .reported .unexpectedEof "truncated length prefix"
  | .truncatedItem => .reported .unexpectedEof "truncated item"

/-- Reads frames; every frame takes at least four bytes, so the length of the content is fuel
enough. -/
def readFramesWithin : Nat → Bytes → Except FrameFault (List Bytes)
  | _, [] => .ok []
  | 0, _ => .error .truncatedLength
  | fuel + 1, a :: b :: c :: d :: rest =>
      let size := ofLittleEndian [a, b, c, d]
      if rest.length < size then .error .truncatedItem
      else do
        let later ← readFramesWithin fuel (rest.drop size)
        .ok (rest.take size :: later)
  | _ + 1, _ => .error .truncatedLength

def readFrames (content : Bytes) : Except FrameFault (List Bytes) :=
  readFramesWithin content.length content

def read (tree : FileTree) (path : String) : Except IoFault (List Bytes) :=
  match tree.read path with
  | .error fault => .error fault
  | .ok content => (readFrames content).mapError FrameFault.toIoFault

end BlockFile

def bufferSize : Nat := 8192

/-- A file being written: where the next byte goes, and what is not yet passed on. -/
structure OpenFile where
  number : UInt64
  file : Nat
  position : Nat
  buffer : Bytes

namespace OpenFile

def pass (opened : OpenFile) (bytes : Bytes) (tree : FileTree) : OpenFile × FileTree :=
  ({ opened with position := opened.position + bytes.length },
    tree.writeAt opened.file opened.position bytes)

def flush (opened : OpenFile) (tree : FileTree) : OpenFile × FileTree :=
  OpenFile.pass { opened with buffer := [] } opened.buffer tree

/-- Keeps what fits with room to spare, makes room when it does not fit, and passes on what would
fill the buffer alone. -/
def write (opened : OpenFile) (bytes : Bytes) (tree : FileTree) : OpenFile × FileTree :=
  let room := bufferSize - opened.buffer.length
  if bytes.length < room then ({ opened with buffer := opened.buffer ++ bytes }, tree)
  else
    let (opened, tree) := if room < bytes.length then opened.flush tree else (opened, tree)
    if bufferSize ≤ bytes.length then opened.pass bytes tree
    else ({ opened with buffer := opened.buffer ++ bytes }, tree)

end OpenFile

/-- Writes one block at a time into a directory. -/
structure FileWriter where
  directory : String
  opened : Option OpenFile

namespace FileWriter

def openBlock (writer : FileWriter) (number : UInt64) (tree : FileTree) :
    Except IoFault Unit × FileWriter × FileTree :=
  match writer.opened with
  | some _ => (.error (.reported .other "writer already has an open block"), writer, tree)
  | none =>
      match tree.create (BlockFile.path writer.directory number) with
      | .error fault => (.error fault, writer, tree)
      | .ok (file, made) => (.ok (), { writer with opened := some ⟨number, file, 0, []⟩ }, made)

/-- The length and the item are written one after the other. -/
def writeItem (writer : FileWriter) (content : Bytes) (tree : FileTree) :
    Except IoFault Unit × FileWriter × FileTree :=
  if content.length < 2 ^ (32 : Nat) then
    match writer.opened with
    | none => (.error (.reported .other "no block open"), writer, tree)
    | some opened =>
        let (opened, tree) := opened.write (littleEndian 4 content.length) tree
        let (opened, tree) := opened.write content tree
        (.ok (), { writer with opened := some opened }, tree)
  else (.error (.reported .invalidInput "item too large"), writer, tree)

/-- Passes on what the buffer holds; the writer has no open block afterwards. -/
def release (writer : FileWriter) (tree : FileTree) : FileWriter × FileTree :=
  match writer.opened with
  | none => (writer, tree)
  | some opened => ({ writer with opened := none }, (opened.flush tree).2)

def closeBlock (writer : FileWriter) (tree : FileTree) :
    Except IoFault Unit × FileWriter × FileTree :=
  match writer.opened with
  | none => (.error (.reported .other "no block open"), writer, tree)
  | some _ =>
      let (writer, tree) := writer.release tree
      (.ok (), writer, tree)

end FileWriter
end ProvenBlocks
