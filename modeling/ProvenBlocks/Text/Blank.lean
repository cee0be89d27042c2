import ProvenBlocks.Text.Ranges

/-!
White space: the characters with the Unicode property `White_Space`, and text without it at both
ends.
-/

namespace ProvenBlocks
namespace Text

def blankRanges : Ranges :=
  [(0x09, 0x0D), (0x20, 0x20), (0x85, 0x85), (0xA0, 0xA0), (0x1680, 0x1680), (0x2000, 0x200A),
    (0x2028, 0x2029), (0x202F, 0x202F), (0x205F, 0x205F), (0x3000, 0x3000)]

def isBlank (character : Char) : Bool := isIn blankRanges character

def trim (content : List Char) : List Char :=
  ((content.dropWhile isBlank).reverse.dropWhile isBlank).reverse

theorem is_blank_of_is_whitespace {character : Char} (white : character.isWhitespace = true) :
    isBlank character = true := by
  simp only [Char.isWhitespace, Bool.or_eq_true, decide_eq_true_eq] at white
  rcases white with ((rfl | rfl) | rfl) | rfl <;> decide

end Text
end ProvenBlocks
