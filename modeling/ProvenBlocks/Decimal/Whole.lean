/-!
Whole numbers read from decimal text: an optional plus sign and at least one digit. The text is
read from the left, and the first character that is no digit or exceeds the limit decides.
-/

namespace ProvenBlocks
namespace Decimal

inductive WholeFault where
  | empty
  | invalidDigit
  | tooLarge
  deriving DecidableEq

def WholeFault.message : WholeFault → String
  | .empty => "cannot parse integer from empty string"
  | .invalidDigit => "invalid digit found in string"
  | .tooLarge => "number too large to fit in target type"

def digitValue? (character : Char) : Option Nat :=
  if '0' ≤ character ∧ character ≤ '9' then some (character.toNat - '0'.toNat) else none

/-- Reads digits on after a value that is below the limit. -/
def readDigits (limit value : Nat) : List Char → Except WholeFault Nat
  | [] => .ok value
  | character :: later =>
      match digitValue? character with
      | none => .error .invalidDigit
      | some digit =>
          if 10 * value + digit < limit then readDigits limit (10 * value + digit) later
          else .error .tooLarge

/-- A lone sign counts as an invalid digit. -/
def readWhole (limit : Nat) : List Char → Except WholeFault Nat
  | [] => .error .empty
  | ['+'] => .error .invalidDigit
  | '+' :: digits => readDigits limit 0 digits
  | digits => readDigits limit 0 digits

end Decimal
end ProvenBlocks
