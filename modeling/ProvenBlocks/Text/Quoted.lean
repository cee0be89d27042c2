import ProvenBlocks.Text.Hidden
import ProvenBlocks.Text.Mark

/-!
Single characters in quotes.
-/

namespace ProvenBlocks
namespace Text

/-- A character that cannot be seen on its own is named by its number. -/
def quoted (character : Char) : String :=
  if isHidden character || isMark character then
    "'\\u\x7b" ++ String.ofList (Nat.toDigits 16 character.toNat) ++ "\x7d'"
  else "'" ++ String.singleton character ++ "'"

end Text
end ProvenBlocks
