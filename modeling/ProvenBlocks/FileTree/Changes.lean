import ProvenBlocks.FileTree

/-!
A file tree stands for a part of a disk. The places that paths lead through are what of the disk
must be known beforehand; the changes between two trees are what must be done to it afterwards.
-/

namespace ProvenBlocks

/-- Things to do to a disk, in order; locations are from its root. -/
inductive DiskChange where
  | makeDirectory (location : Location)
  | writeFile (location : Location) (content : Bytes)
  | removeFile (location : Location)
  deriving DecidableEq

namespace FileTree

def placesBelow (here : Location) : List String → List Location
  | [] => []
  | "." :: later => placesBelow here later
  | ".." :: later => placesBelow here.dropLast later
  | name :: later => (here ++ [name]) :: placesBelow (here ++ [name]) later

/-- The places that a path leads through, from the first to the one that it names. -/
def places (tree : FileTree) (path : String) : List Location :=
  placesBelow (tree.origin path) (Path.names path)

def addDirectory (tree : FileTree) (location : Location) : FileTree :=
  tree.setEntry location .directory

def addFile (tree : FileTree) (location : Location) (content : Bytes) : FileTree :=
  { tree with contents := tree.contents ++ [content] }.setEntry location
    (.file tree.contents.length)

def contentAt? (tree : FileTree) (location : Location) : Option Bytes :=
  match tree.entry? location with
  | some (.file index) => some (tree.content index)
  | some .directory | none => none

def changeOf? (before after : FileTree) (known : Location × Entry) : Option DiskChange :=
  match known.2 with
  | .directory =>
      if (before.entry? known.1).isSome then none else some (.makeDirectory known.1)
  | .file index =>
      if before.contentAt? known.1 = some (after.content index) then none
      else some (.writeFile known.1 (after.content index))

def removalOf? (after : FileTree) (known : Location × Entry) : Option DiskChange :=
  match known.2 with
  | .directory => none
  | .file _ => if (after.entry? known.1).isSome then none else some (.removeFile known.1)

/-- Directories and files are made in the order of their making in the tree, so a directory comes
before what it holds. -/
def changes (before after : FileTree) : List DiskChange :=
  after.entries.filterMap (changeOf? before after) ++ before.entries.filterMap (removalOf? after)

end FileTree
end ProvenBlocks
