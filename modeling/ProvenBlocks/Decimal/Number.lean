/-!
Texts of numbers of any kind: whole ones, fractions with an exponent, infinity and what is no
number at all.
-/

namespace ProvenBlocks
namespace Decimal

def afterSign : List Char → List Char
  | '+' :: later | '-' :: later => later
  | content => content

def isExponent : List Char → Bool
  | [] => true
  | 'e' :: later | 'E' :: later =>
      let digits := afterSign later
      !digits.isEmpty && digits.all Char.isDigit
  | _ => false

/-- Digits may stand on one side of the point only. -/
def isMagnitude (content : List Char) : Bool :=
  let whole := content.takeWhile Char.isDigit
  match content.dropWhile Char.isDigit with
  | '.' :: later =>
      let fraction := later.takeWhile Char.isDigit
      !(whole.isEmpty && fraction.isEmpty) && isExponent (later.dropWhile Char.isDigit)
  | later => !whole.isEmpty && isExponent later

/-- Upper and lower case are the same. -/
def isNumber (content : List Char) : Bool :=
  let magnitude := afterSign content
  ["inf", "infinity", "nan"].contains (String.ofList (magnitude.map Char.toLower))
    || isMagnitude magnitude

theorem is_magnitude_of_digits {digits : List Char} (nonempty : digits ≠ [])
    (plain : ∀ character ∈ digits, character.isDigit = true) : isMagnitude digits = true := by
  have kept : digits.takeWhile Char.isDigit = digits := by
    simpa using @List.takeWhile_append_of_pos Char Char.isDigit digits [] plain
  have gone : digits.dropWhile Char.isDigit = [] := by
    simpa using @List.dropWhile_append_of_pos Char Char.isDigit digits [] plain
  simp [isMagnitude, kept, gone, isExponent, nonempty]

theorem after_sign_of_digit {first : Char} {later : List Char} (plain : first.isDigit = true) :
    afterSign (first :: later) = first :: later := by
  unfold afterSign
  split
  · rename_i same
    cases same
    simp at plain
  · rename_i same
    cases same
    simp at plain
  · rfl

theorem is_number_of_digits {digits : List Char} (nonempty : digits ≠ [])
    (plain : ∀ character ∈ digits, character.isDigit = true) : isNumber digits = true := by
  cases digits with
  | nil => exact absurd rfl nonempty
  | cons first later =>
      rw [isNumber, after_sign_of_digit (plain first List.mem_cons_self)]
      simp [is_magnitude_of_digits nonempty plain]

end Decimal
end ProvenBlocks
