import ProvenBlocks.Decimal.Double

/-!
Decimal text of a fraction with a fixed number of places. It is rounded to the nearest multiple of
the last place and a tie goes to the even neighbour.
-/

namespace ProvenBlocks

-- A power means the same beside an algebra library.
attribute [local instance (20000)] instPowNat

def Decimal.padLeft (width : Nat) (text : String) : String :=
  String.ofList (List.replicate (width - text.length) '0') ++ text

def Fraction.fixedText (fraction : Fraction) (places : Nat) : String :=
  let scaled := Fraction.round ⟨fraction.numerator * 10 ^ places, fraction.denominator⟩
  toString (scaled / 10 ^ places) ++ "." ++ Decimal.padLeft places (toString (scaled % 10 ^ places))

end ProvenBlocks
