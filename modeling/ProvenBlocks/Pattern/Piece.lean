import ProvenBlocks.Text.Blank

/-!
The smallest parts of patterns. Neither the classes of characters nor the upper and lower cases of
all scripts are at hand: a pattern that needs any of them has to turn all scripts off first, and
then it may not match anything beyond ASCII by a class or as a single byte.
-/

namespace ProvenBlocks
namespace Pattern

/-- How the characters of a pattern are read, from a place on to the end of its group. -/
structure Modes where
  ignoresCase : Bool
  knowsScripts : Bool
  skipsBlanks : Bool

def Modes.default : Modes := ⟨false, true, false⟩

/-- Turns a mode on or off; some modes do not matter here. -/
def Modes.set (modes : Modes) (isOn : Bool) : Char → Option Modes
  | 'i' => some { modes with ignoresCase := isOn }
  | 'u' => some { modes with knowsScripts := isOn }
  | 'x' => some { modes with skipsBlanks := isOn }
  | 'm' | 's' | 'U' | 'R' => some modes
  | _ => none

/-- A comment ends with its line. -/
def skipFrom : Bool → List Char → List Char
  | _, [] => []
  | true, character :: later => skipFrom (character != '\n') later
  | false, character :: later =>
      if Text.isBlank character then skipFrom false later
      else if character = '#' then skipFrom true later
      else character :: later

/-- Blanks and comments stand for nothing, if the modes say so. -/
def Modes.skip (modes : Modes) (content : List Char) : List Char :=
  if modes.skipsBlanks then skipFrom false content else content

/-! ### Pieces -/

/-- The smallest parts: a character, perhaps given as one byte; a class of digits, blanks or
letters, or of all others; any character at all; a boundary of a word; another place. -/
inductive Piece where
  | character (code : Nat) (isByte : Bool)
  | namedClass (isNegated : Bool)
  | anything
  | boundary
  | place

def hexDigit? (character : Char) : Option Nat :=
  if character.isDigit then some (character.toNat - '0'.toNat)
  else if 'a' ≤ character ∧ character ≤ 'f' then some (character.toNat - 'a'.toNat + 10)
  else if 'A' ≤ character ∧ character ≤ 'F' then some (character.toNat - 'A'.toNat + 10)
  else none

def hexValue (modes : Modes) : Nat → Nat → List Char → Option (Nat × List Char)
  | 0, value, content => some (value, content)
  | digits + 1, value, content =>
      match modes.skip content with
      | [] => none
      | character :: later => do
          let digit ← hexDigit? character
          hexValue modes digits (16 * value + digit) later

/-- Numbers of characters have a fixed count of digits. -/
def numbered (modes : Modes) (digits : Nat) (content : List Char) : Option (Piece × List Char) := do
  let (code, later) ← hexValue modes digits 0 content
  if code.isValidChar then some (.character code (digits == 2), later) else none

/-- Controls that a letter stands for. -/
def controls : List (Char × Nat) :=
  [('a', 0x07), ('t', 0x09), ('n', 0x0A), ('v', 0x0B), ('f', 0x0C), ('r', 0x0D)]

/-- ASCII characters other than letters and digits stand for themselves. -/
def standsForItself (character : Char) : Bool :=
  character.toNat < 0x80 && !character.isAlphanum

/-- What follows a backslash. Properties of characters are among the classes that are not at hand,
and a brace after a boundary asks for an end that it cannot have. -/
def escaped (modes : Modes) : List Char → Option (Piece × List Char)
  | 'x' :: later => numbered modes 2 later
  | 'u' :: later => numbered modes 4 later
  | 'U' :: later => numbered modes 8 later
  | 'b' :: '\x7b' :: _ => none
  | character :: later =>
      if ['d', 's', 'w'].contains character then some (.namedClass false, later)
      else if ['D', 'S', 'W'].contains character then some (.namedClass true, later)
      else if ['A', 'z'].contains character then some (.place, later)
      else if ['b', 'B', '<', '>'].contains character then some (.boundary, later)
      else if standsForItself character then some (.character character.toNat false, later)
      else (controls.lookup character).map fun code => (.character code false, later)
  | [] => none

/-- Without all scripts a single byte must be ASCII, and so must all that a class holds. -/
def Modes.admits (modes : Modes) : Piece → Bool
  | .character code isByte =>
      if modes.knowsScripts then !modes.ignoresCase else !isByte || code < 0x80
  | .namedClass isNegated => !modes.knowsScripts && !isNegated
  | .anything => modes.knowsScripts
  | .boundary | .place => true

/-! ### Nesting -/

/-- Several parts together are nested one level deeper than the deepest of them. -/
def joinedHeight : List Nat → Nat
  | [] => 0
  | [height] => height
  | heights => heights.foldl max 0 + 1

end Pattern
end ProvenBlocks
