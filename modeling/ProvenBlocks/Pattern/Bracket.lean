import ProvenBlocks.Pattern.Piece

/-!
Classes of characters in brackets: pieces, ranges and further classes side by side, or sets made
of them by doubled signs.
-/

namespace ProvenBlocks
namespace Pattern

def Modes.admitsInClass (modes : Modes) : Piece → Bool
  | .character code _ => if modes.knowsScripts then !modes.ignoresCase else code < 0x80
  | .namedClass isNegated => !modes.knowsScripts && !isNegated
  | .anything | .boundary | .place => false

def classPiece (modes : Modes) : List Char → Option (Piece × List Char)
  | [] => none
  | '\\' :: later => escaped modes later
  | character :: later => some (.character character.toNat false, later)

/-- What follows a dash that stands between the ends of a range. -/
def rangeEnd? (modes : Modes) (content : List Char) : Option (List Char) :=
  match modes.skip content with
  | '-' :: later =>
      match modes.skip later with
      | ']' :: _ | '-' :: _ => none
      | other => some other
  | _ => none

/-- A piece, or a range of characters in their order. -/
def classItem (modes : Modes) (content : List Char) : Option (List Char) := do
  let (first, later) ← classPiece modes content
  match rangeEnd? modes later with
  | none => if modes.admitsInClass first then some later else none
  | some rest =>
      let (last, rest) ← classPiece modes rest
      match first, last with
      | .character low _, .character high _ =>
          if low ≤ high && modes.admitsInClass first && modes.admitsInClass last then some rest
          else none
      | _, _ => none

def asciiClassNames : List String :=
  ["alnum", "alpha", "ascii", "blank", "cntrl", "digit", "graph", "lower", "print", "punct",
    "space", "upper", "word", "xdigit"]

/-- An ASCII class by its name between colons; whether it is negated, and what follows. -/
def asciiClass? : List Char → Option (Bool × List Char)
  | ':' :: content =>
      let (isNegated, content) := match content with
        | '^' :: later => (true, later)
        | _ => (false, content)
      match content.dropWhile (· != ':') with
      | ':' :: ']' :: later =>
          let name := String.ofList (content.takeWhile (· != ':'))
          if asciiClassNames.contains name then some (isNegated, later) else none
      | _ => none
  | _ => none

/-- What follows an opening bracket. -/
def openClass (modes : Modes) (content : List Char) : Option (List Char) :=
  let (isNegated, later) := match modes.skip content with
    | '^' :: later => (true, later)
    | other => (false, other)
  let isAtHand := if modes.knowsScripts then !modes.ignoresCase else !isNegated
  if isAtHand then some later else none

/-- How far a class has come: dashes at its beginning, and a closing bracket before them, stand
for themselves. -/
inductive ClassStage where
  | opened
  | dashed
  | within

/-- How deep the items since the last doubled sign are nested, and the set before the sign. -/
structure ClassNest where
  items : List Nat
  before : Option Nat

namespace ClassNest

def start : ClassNest := ⟨[], none⟩

def add (nest : ClassNest) (height : Nat) : ClassNest := { nest with items := height :: nest.items }

def height (nest : ClassNest) : Nat :=
  match nest.before with
  | none => joinedHeight nest.items
  | some before => max before (joinedHeight nest.items) + 1

def combine (nest : ClassNest) : ClassNest := ⟨[], some nest.height⟩

end ClassNest

/-- Reads on in a class, which may have others around it, and past its end; tells how deep all of
it is nested. -/
def classWithin (modes : Modes) : Nat → ClassNest → List ClassNest → ClassStage → List Char →
    Option (Nat × List Char)
  | 0, _, _, _, _ => none
  | fuel + 1, nest, around, stage, content =>
      match stage, modes.skip content with
      | _, [] => none
      | .opened, '-' :: later | .dashed, '-' :: later =>
          classWithin modes fuel (nest.add 0) around .dashed later
      | .opened, ']' :: later => classWithin modes fuel (nest.add 0) around .within later
      | _, ']' :: later =>
          match around with
          | [] => some (nest.height + 1, later)
          | outer :: around =>
              classWithin modes fuel (outer.add (nest.height + 1)) around .within later
      | _, '[' :: later =>
          match asciiClass? later with
          | some (isNegated, later) =>
              if isNegated && !modes.knowsScripts then none
              else classWithin modes fuel (nest.add 0) around .within later
          | none => do
              let later ← openClass modes later
              classWithin modes fuel .start (nest :: around) .opened later
      | _, '&' :: '&' :: later | _, '-' :: '-' :: later | _, '~' :: '~' :: later =>
          classWithin modes fuel nest.combine around .within later
      | _, other => do
          let later ← classItem modes other
          classWithin modes fuel (nest.add 0) around .within later

/-- A whole class, from behind its first bracket on. Every step reads a character at least. -/
def bracketed (modes : Modes) (content : List Char) : Option (Nat × List Char) := do
  let later ← openClass modes content
  classWithin modes (later.length + 1) .start [] .opened later

end Pattern
end ProvenBlocks
