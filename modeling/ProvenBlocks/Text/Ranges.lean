/-!
Classes of characters as lists of ranges, each from a first to a last character.
-/

namespace ProvenBlocks
namespace Text

abbrev Ranges := List (Nat × Nat)

def isIn (ranges : Ranges) (character : Char) : Bool :=
  ranges.any fun range => range.1 ≤ character.toNat && character.toNat ≤ range.2

end Text
end ProvenBlocks
