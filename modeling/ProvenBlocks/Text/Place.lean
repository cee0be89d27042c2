import ProvenBlocks.Text.Quoted

/-!
Places in text, counted in bytes. Text can be parted at every place between two characters, and at
no place inside of one.
-/

namespace ProvenBlocks
namespace Text

/-- The places that a part of a text lies between. -/
inductive PartEnd where
  | first
  | last
  deriving DecidableEq

def PartEnd.name : PartEnd → String
  | .first => "start"
  | .last => "end"

/-- A place inside a character, which begins at an earlier place. -/
structure InsideCharacter where
  partEnd : PartEnd
  place : Nat
  beginning : Nat
  character : Char

def InsideCharacter.message (fault : InsideCharacter) : String :=
  let ending := fault.beginning + fault.character.utf8Size
  fault.partEnd.name ++ " byte index " ++ toString fault.place
    ++ " is not a char boundary; it is inside " ++ quoted fault.character
    ++ " (bytes " ++ toString fault.beginning ++ ".." ++ toString ending ++ " of string)"

/-- Parts text of which so many bytes have passed already. -/
def partFrom (passed place : Nat) : List Char → Except (Nat × Char) (List Char × List Char)
  | [] => .ok ([], [])
  | character :: later =>
      if place ≤ passed then .ok ([], character :: later)
      else if place < passed + character.utf8Size then .error (passed, character)
      else do
        let (before, after) ← partFrom (passed + character.utf8Size) place later
        .ok (character :: before, after)

theorem part_from_append {passed place : Nat} {content before after : List Char}
    (parted : partFrom passed place content = .ok (before, after)) :
    before ++ after = content := by
  induction content generalizing passed before with
  | nil =>
      cases parted
      rfl
  | cons character later inductive_hypothesis =>
      simp only [partFrom] at parted
      split at parted
      · cases parted
        rfl
      · split at parted
        · cases parted
        · cases rest : partFrom (passed + character.utf8Size) place later with
          | error found =>
              rw [rest] at parted
              cases parted
          | ok parts =>
              rw [rest] at parted
              cases parted
              exact congrArg (character :: ·) (inductive_hypothesis rest)

def inside (partEnd : PartEnd) (place : Nat) (found : Nat × Char) : InsideCharacter :=
  ⟨partEnd, place, found.1, found.2⟩

/-- The part from a first place to a last one. -/
def between (first last : Nat) (content : List Char) : Except InsideCharacter (List Char) := do
  let (_, later) ← (partFrom 0 first content).mapError (inside .first first)
  let (part, _) ← (partFrom first last later).mapError (inside .last last)
  .ok part

/-- All from a first place on. -/
def onward (first : Nat) (content : List Char) : Except InsideCharacter (List Char) := do
  let (_, later) ← (partFrom 0 first content).mapError (inside .first first)
  .ok later

end Text
end ProvenBlocks
