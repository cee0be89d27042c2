import ProvenBlocks.Pattern.Bracket
import ProvenBlocks.Text.Alphanumeric

/-!
Patterns of text, written as regular expressions. What counts here is only which texts are
patterns: pieces and classes in a row, some of them repeated, in groups and with alternatives.
-/

namespace ProvenBlocks

/-- Why a text is no pattern, or one that cannot be searched for. -/
inductive PatternFault where
  | malformed
  | wordBoundary
  deriving DecidableEq

def PatternFault.message : PatternFault → String
  | .malformed => "error building NFA"
  | .wordBoundary =>
      "unsupported regex feature for DFAs: cannot build DFAs for regexes with Unicode word "
        ++ "boundaries; switch to ASCII word boundaries, or heuristically enable Unicode word "
        ++ "boundaries or use a different regex engine"

namespace Pattern

/-- A group, or the pattern as a whole, as far as it was read: its modes, and how deep its parts
are nested, by alternatives, the latest first. -/
structure Group where
  modes : Modes
  alternatives : List Nat
  parts : List Nat

namespace Group

def start (modes : Modes) : Group := ⟨modes, [], []⟩

def add (group : Group) (height : Nat) : Group := { group with parts := height :: group.parts }

def height (group : Group) : Nat := joinedHeight (joinedHeight group.parts :: group.alternatives)

def nextAlternative (group : Group) : Group :=
  ⟨group.modes, joinedHeight group.parts :: group.alternatives, []⟩

end Group

/-- Where the reading of a pattern has come to: the group that it is in and those around, whether
there is something to repeat, the names of groups, and whether a word boundary was met that
depends on all scripts. -/
structure Reading where
  group : Group
  around : List Group
  isRepeatable : Bool
  names : List String
  hasBoundary : Bool

namespace Reading

def start : Reading := ⟨.start .default, [], false, [], false⟩

def modes (reading : Reading) : Modes := reading.group.modes

def addPart (reading : Reading) (height : Nat) : Reading :=
  { reading with group := reading.group.add height, isRepeatable := true }

def addPiece (reading : Reading) (piece : Piece) : Option Reading :=
  if reading.modes.admits piece then
    let dependsOnScripts := match piece with
      | .boundary => reading.modes.knowsScripts
      | _ => false
    some { reading.addPart 0 with hasBoundary := reading.hasBoundary || dependsOnScripts }
  else none

/-- A question mark after a repetition belongs to it. -/
def repeatPart (reading : Reading) (content : List Char) : Option (Reading × List Char) :=
  match reading.isRepeatable, reading.group.parts with
  | true, height :: parts =>
      let repeated := { reading with group := { reading.group with parts := (height + 1) :: parts } }
      match content with
      | '?' :: later => some (repeated, later)
      | _ => some (repeated, content)
  | _, _ => none

def nextAlternative (reading : Reading) : Reading :=
  { reading with group := reading.group.nextAlternative, isRepeatable := false }

/-! ### Groups -/

def enter (reading : Reading) (modes : Modes) : Reading :=
  { reading with
    group := .start modes
    around := reading.group :: reading.around
    isRepeatable := false }

def leave (reading : Reading) : Option Reading :=
  match reading.around with
  | [] => none
  | outer :: around =>
      some ({ reading with group := outer, around := around }.addPart (reading.group.height + 1))

/-- Modes that hold for the rest of a group count as a part that cannot be repeated. -/
def change (reading : Reading) (modes : Modes) : Reading :=
  { reading with group := { reading.group.add 0 with modes := modes }, isRepeatable := false }

/-- Modes are named once at most, those to be turned off behind one dash. They hold for the rest
of the group around or, before a colon, for a group of their own. -/
def readModes (reading : Reading) :
    List Char → Modes → List Char → Option (Reading × List Char)
  | _, _, [] => none
  | seen, modes, character :: later =>
      if character = ':' ∨ character = ')' then
        if seen.head? = some '-' then none
        else if character = ':' then some (reading.enter modes, later)
        else if seen.isEmpty then none
        else some (reading.change modes, later)
      else if seen.contains character then none
      else if character = '-' then readModes reading (character :: seen) modes later
      else do
        let changed ← modes.set (!seen.contains '-') character
        readModes reading (character :: seen) changed later

/-- Digits of other scripts than ASCII count as letters. -/
def isNameStart (character : Char) : Bool :=
  character = '_' || Text.isAlphanumeric character && !character.isDigit

def isNamePart (character : Char) : Bool :=
  Text.isAlphanumeric character || ['_', '.', '[', ']'].contains character

/-- No two groups have the same name. -/
def readName (reading : Reading) (content : List Char) : Option (Reading × List Char) :=
  let name := content.takeWhile (· != '>')
  let text := String.ofList name
  match name, content.dropWhile (· != '>') with
  | first :: others, '>' :: later =>
      if isNameStart first && others.all isNamePart && !reading.names.contains text then
        some ({ reading with names := text :: reading.names }.enter reading.modes, later)
      else none
  | _, _ => none

/-- What follows an opening parenthesis. -/
def openGroup (reading : Reading) (content : List Char) : Option (Reading × List Char) :=
  match reading.modes.skip content with
  | '?' :: '=' :: _ | '?' :: '!' :: _ | '?' :: '<' :: '=' :: _ | '?' :: '<' :: '!' :: _ => none
  | '?' :: 'P' :: '<' :: later | '?' :: '<' :: later => reading.readName later
  | '?' :: later => reading.readModes [] reading.modes later
  | other => some (reading.enter reading.modes, other)

/-! ### Whole patterns -/

/-- Reads one part of a pattern, its first character already taken. A brace would count
repetitions, but the text of a field holds no brace that ends the count. -/
def step (reading : Reading) (content : List Char) : Char → Option (Reading × List Char)
  | '(' => reading.openGroup content
  | ')' => reading.leave.map fun left => (left, content)
  | '|' => some (reading.nextAlternative, content)
  | '?' | '*' | '+' => reading.repeatPart content
  | '\x7b' => none
  | '[' => (bracketed reading.modes content).map fun (height, later) =>
      (reading.addPart height, later)
  | '\\' => do
      let (piece, later) ← escaped reading.modes content
      let after ← reading.addPiece piece
      some (after, later)
  | '.' => (reading.addPiece .anything).map fun after => (after, content)
  | '^' | '$' => (reading.addPiece .place).map fun after => (after, content)
  | character => (reading.addPiece (.character character.toNat false)).map fun after =>
      (after, content)

def runWithin : Nat → Reading → List Char → Option Reading
  | 0, _, _ => none
  | fuel + 1, reading, content =>
      match reading.modes.skip content with
      | [] => some reading
      | character :: later => do
          let (after, rest) ← reading.step later character
          runWithin fuel after rest

end Reading

/-- Parts may be nested so deep in each other. -/
def heightLimit : Nat := 250

/-- Every part of a pattern has a character at least. -/
def check (content : List Char) : Except PatternFault Unit :=
  match Reading.runWithin (content.length + 1) .start content with
  | none => .error .malformed
  | some reading =>
      if !reading.around.isEmpty || heightLimit < reading.group.height then .error .malformed
      else if reading.hasBoundary then .error .wordBoundary
      else .ok ()

end Pattern
end ProvenBlocks
