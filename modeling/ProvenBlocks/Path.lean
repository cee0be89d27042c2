/-!
Paths as text. Slashes at the end, and dots that stand alone behind a slash, name nothing; parents
and file names ignore them, and all else of a path is kept as it is written.
-/

namespace ProvenBlocks
namespace Path

def isAbsolute (path : String) : Bool := path.toList.head? == some '/'

/-- Drops what names nothing from a path that is read from its end. -/
def skipEmptyNames : List Char → List Char
  | '/' :: rest => skipEmptyNames rest
  | '.' :: '/' :: rest => skipEmptyNames rest
  | reversed => reversed

/-- The path from its end, less what names nothing there. -/
def significant (path : String) : List Char := skipEmptyNames path.toList.reverse

def isSlash (character : Char) : Bool := character == '/'

def lastName (path : String) : String :=
  String.ofList ((significant path).takeWhile (fun character => !isSlash character)).reverse

/-- The last name, unless it stands for a directory relative to another. -/
def fileName? (path : String) : Option String :=
  let name := lastName path
  if name == "" || name == "." || name == ".." then none else some name

/-- What is left without the last name; the root and the empty path have no parent. -/
def parent? (path : String) : Option String :=
  match significant path with
  | [] => none
  | reversed =>
      let rest := skipEmptyNames (reversed.dropWhile (fun character => !isSlash character))
      if rest.isEmpty && isAbsolute path then some "/" else some (String.ofList rest.reverse)

def endsWithSlash (path : String) : Bool := path.toList.getLast? == some '/'

def join (base name : String) : String :=
  if isAbsolute name then name
  else if base == "" || endsWithSlash base then base ++ name
  else base ++ "/" ++ name

/-- The path with another last name; a path without a file name is taken as a directory. -/
def withFileName (path name : String) : String :=
  match fileName? path with
  | none => join path name
  | some _ => join ((parent? path).getD "") name

/-- What stands before, between and behind the slashes. -/
def pieces : List Char → List (List Char)
  | [] => [[]]
  | character :: later =>
      if isSlash character then [] :: pieces later
      else
        match pieces later with
        | [] => [[character]]
        | piece :: others => (character :: piece) :: others

def nameOf? (piece : List Char) : Option String :=
  if piece.isEmpty then none else some (String.ofList piece)

/-- All names from the front, dots too; nothing stands between two slashes. -/
def names (path : String) : List String := (pieces path.toList).filterMap nameOf?

end Path
end ProvenBlocks
