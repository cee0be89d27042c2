import ProvenBlocks.IoFault
import ProvenBlocks.Path
import ProvenBlocks.Word

/-!
A tree of directories and files. A file's content is kept beside the names, so that whoever has
the file open goes on writing to it after the name is gone. An operation on one file either fails
and leaves the tree alone, or takes effect as a whole; those on whole branches of the tree go as far
as they get.
-/

namespace ProvenBlocks

/-- The names from the root; the root itself is the empty list. -/
abbrev Location := List String

inductive Entry where
  | directory
  | file (index : Nat)
  deriving DecidableEq

structure FileTree where
  entries : List (Location × Entry)
  contents : List Bytes
  workingDirectory : Location

/-- How a path ends: in a name, with or without a slash behind it, or in what stands for a
directory that needs no name. -/
inductive PathEnd where
  | name (isSlashed : Bool)
  | here
  | above
  | root
  deriving DecidableEq

def PathEnd.isName : PathEnd → Bool
  | .name _ => true
  | .here | .above | .root => false

/-- What a path leads to. Everything before its end is there; what it ends in may be missing, or
have a name that cannot be looked for. -/
structure Target where
  location : Location
  ending : PathEnd
  entry : Except IoFault (Option Entry)

namespace FileTree

/-- A tree of nothing but a working directory. -/
def ofWorkingDirectory (location : Location) : FileTree :=
  { entries := (List.range location.length).map fun depth =>
      (location.take (depth + 1), .directory)
    contents := []
    workingDirectory := location }

/-- The working directory has directories above it, so that paths may leave it. -/
def empty : FileTree := ofWorkingDirectory ["home", "work"]

def entry? (tree : FileTree) (location : Location) : Option Entry :=
  if location.isEmpty then some .directory else tree.entries.lookup location

/-- The longest name and the longest path, in bytes. -/
def longestName : Nat := 255

def longestPath : Nat := 4095

def lookUp (tree : FileTree) (directory : Location) (name : String) :
    Except IoFault (Option Entry) :=
  if longestName < name.utf8ByteSize then .error (.system .nameTooLong)
  else .ok (tree.entry? (directory ++ [name]))

/-- Follows names from a directory that is there. -/
def walk (tree : FileTree) (isSlashed : Bool) (directory : Location) :
    List String → Except IoFault Target
  | [] => .ok ⟨directory, .root, .ok (some .directory)⟩
  | ["."] => .ok ⟨directory, .here, .ok (some .directory)⟩
  | [".."] => .ok ⟨directory.dropLast, .above, .ok (some .directory)⟩
  | [name] => .ok ⟨directory ++ [name], .name isSlashed, tree.lookUp directory name⟩
  | "." :: later => tree.walk isSlashed directory later
  | ".." :: later => tree.walk isSlashed directory.dropLast later
  | name :: later =>
      match tree.lookUp directory name with
      | .error fault => .error fault
      | .ok none => .error (.system .noEntry)
      | .ok (some (.file _)) => .error (.system .notDirectory)
      | .ok (some .directory) => tree.walk isSlashed (directory ++ [name]) later

/-- Where a path starts. -/
def origin (tree : FileTree) (path : String) : Location :=
  if Path.isAbsolute path then [] else tree.workingDirectory

def resolve (tree : FileTree) (path : String) : Except IoFault Target :=
  if path.toList.contains '\x00' then .error IoFault.zeroInPath
  else if path == "" then .error (.system .noEntry)
  else if longestPath < path.utf8ByteSize then .error (.system .nameTooLong)
  else tree.walk (Path.endsWithSlash path) (tree.origin path) (Path.names path)

def isDirectory (tree : FileTree) (path : String) : Bool :=
  match tree.resolve path with
  | .ok ⟨_, _, .ok (some .directory)⟩ => true
  | _ => false

def setEntry (tree : FileTree) (location : Location) (entry : Entry) : FileTree :=
  { tree with
    entries := (tree.entries.filter fun known => known.1 != location) ++ [(location, entry)] }

def content (tree : FileTree) (index : Nat) : Bytes := tree.contents[index]?.getD []

def setContent (tree : FileTree) (index : Nat) (content : Bytes) : FileTree :=
  { tree with contents := tree.contents.set index content }

def makeDirectory (tree : FileTree) (path : String) : Except IoFault FileTree := do
  let target ← tree.resolve path
  match ← target.entry with
  | some _ => .error (.system .alreadyExists)
  | none => .ok (tree.setEntry target.location .directory)

/-- A directory that could not be made is no fault if it is there. -/
def orDirectory (tree : FileTree) (path : String) :
    Except IoFault FileTree → Except IoFault Unit × FileTree
  | .ok made => (.ok (), made)
  | .error fault => (if tree.isDirectory path then .ok () else .error fault, tree)

def makeDirectoriesWithin : Nat → FileTree → String → Except IoFault Unit × FileTree
  | 0, tree, _ => (.error (.system .noEntry), tree)
  | fuel + 1, tree, path =>
      if path == "" then (.ok (), tree)
      else
        match tree.makeDirectory path, Path.parent? path with
        | .error (.system .noEntry), some parent =>
            match makeDirectoriesWithin fuel tree parent with
            | (.error fault, tree) => (.error fault, tree)
            | (.ok (), tree) => tree.orDirectory path (tree.makeDirectory path)
        | made, _ => tree.orDirectory path made

/-- Makes a directory and what is missing above it, and keeps what it has made if it fails. -/
def makeDirectories (tree : FileTree) (path : String) : Except IoFault Unit × FileTree :=
  makeDirectoriesWithin (path.length + 1) tree path

/-- Opens a file for writing: an existing one loses its content. -/
def create (tree : FileTree) (path : String) : Except IoFault (Nat × FileTree) := do
  let target ← tree.resolve path
  if target.ending != .name false then .error (.system .isDirectory)
  else
    match ← target.entry with
    | some .directory => .error (.system .isDirectory)
    | some (.file index) => .ok (index, tree.setContent index [])
    | none =>
        let index := tree.contents.length
        let made := { tree with contents := tree.contents ++ [[]] }
        .ok (index, made.setEntry target.location (.file index))

/-- Writes at a position of an open file; a gap before it is filled with zeros, but writing nothing
fills no gap. -/
def writeAt (tree : FileTree) (index position : Nat) (bytes : Bytes) : FileTree :=
  if bytes.isEmpty then tree
  else
    let content := tree.content index
    let before := content.take position ++ List.replicate (position - content.length) 0
    tree.setContent index (before ++ bytes ++ content.drop (position + bytes.length))

def read (tree : FileTree) (path : String) : Except IoFault Bytes := do
  let target ← tree.resolve path
  match ← target.entry with
  | none => .error (.system .noEntry)
  | some .directory => .error (.system .isDirectory)
  | some (.file index) =>
      if target.ending = .name false then .ok (tree.content index)
      else .error (.system .notDirectory)

/-- Replaces what the file at `path` holds. -/
def write (tree : FileTree) (path : String) (bytes : Bytes) : Except IoFault FileTree := do
  let (index, made) ← tree.create path
  .ok (made.setContent index bytes)

def removeEntry (tree : FileTree) (location : Location) : FileTree :=
  { tree with entries := tree.entries.filter fun known => known.1 != location }

/-- Moves a file over whatever file is at the destination. -/
def rename (tree : FileTree) (source destination : String) : Except IoFault FileTree := do
  let old ← tree.resolve source
  let new ← tree.resolve destination
  if !(old.ending.isName && new.ending.isName) then .error (.system .busy)
  else
    match ← old.entry with
    | none => .error (.system .noEntry)
    | some moved =>
        let replaced ← new.entry
        if old.ending = .name true || new.ending = .name true then .error (.system .notDirectory)
        else if replaced = some .directory then .error (.system .isDirectory)
        else .ok ((tree.removeEntry old.location).setEntry new.location moved)

def directoryAt (tree : FileTree) (path : String) : Except IoFault Location := do
  let target ← tree.resolve path
  match ← target.entry with
  | none => .error (.system .noEntry)
  | some (.file _) => .error (.system .notDirectory)
  | some .directory => .ok target.location

def emptyDirectory (tree : FileTree) (location : Location) : FileTree :=
  { tree with
    entries := tree.entries.filter fun known =>
      known.1 = location || !location.isPrefixOf known.1 }

/-- Removes what is in a directory and then the directory, which must have a name for that. A path
that led through what has been removed leads nowhere any more, and nothing is left to do. -/
def removeTree (tree : FileTree) (path : String) : Except IoFault Unit × FileTree :=
  match tree.directoryAt path with
  | .error fault => (.error fault, tree)
  | .ok location =>
      let emptied := tree.emptyDirectory location
      match emptied.resolve path with
      | .error _ => (.ok (), emptied)
      | .ok target =>
          match target.ending with
          | .name _ => (.ok (), emptied.removeEntry location)
          | .here => (.error (.system .invalidArgument), emptied)
          | .above => (.error (.system .notEmpty), emptied)
          | .root => (.error (.system .busy), emptied)

def entrySize (tree : FileTree) : Entry → Nat
  | .directory => 0
  | .file index => (tree.content index).length

def byName {α : Type} (left right : String × α) : Bool := left.1 ≤ right.1

def childName? (location : Location) (known : Location × Entry) : Option (String × Entry) :=
  if known.1.dropLast = location then known.1.getLast?.map fun name => (name, known.2) else none

/-- The names in a directory in ascending order. -/
def list (tree : FileTree) (path : String) : Except IoFault (List (String × Entry)) := do
  let location ← tree.directoryAt path
  .ok ((tree.entries.filterMap (childName? location)).mergeSort byName)

/-- Names in a directory and their sizes. -/
def sizes (tree : FileTree) (path : String) : Except IoFault (List (String × Nat)) := do
  .ok ((← tree.list path).map fun (name, entry) => (name, tree.entrySize entry))

def filePath? (tree : FileTree) (known : Location × Entry) : Option String :=
  match known.2 with
  | .directory => none
  | .file _ =>
      if tree.workingDirectory.isPrefixOf known.1 then
        some ("./" ++ "/".intercalate (known.1.drop tree.workingDirectory.length))
      else none

/-- The paths of all files below the working directory, in ascending order. -/
def files (tree : FileTree) : List String :=
  (tree.entries.filterMap tree.filePath?).mergeSort fun left right => left ≤ right

end FileTree
end ProvenBlocks
