import ProvenBlocks.Word

/-!
Fractions of whole numbers, and the double nearest to one. A double has 53 significant bits and a
tie goes to the even neighbour; bounds of its exponent play no part in the range used here.
-/

namespace ProvenBlocks

-- A power means the same beside an algebra library.
attribute [local instance (20000)] instPowNat

structure Fraction where
  numerator : Nat
  denominator : Nat
  deriving DecidableEq

namespace Fraction

def whole (value : Nat) : Fraction := ⟨value, 1⟩

def dividedBy (dividend divisor : Fraction) : Fraction :=
  ⟨dividend.numerator * divisor.denominator, dividend.denominator * divisor.numerator⟩

def round (fraction : Fraction) : Nat :=
  let below := fraction.numerator / fraction.denominator
  let twice := 2 * (fraction.numerator % fraction.denominator)
  if twice < fraction.denominator ∨ (twice = fraction.denominator ∧ below % 2 = 0) then below
  else below + 1

/-- The fraction is scaled until it lies between `2 ^ 52` and `2 ^ 53`, rounded there to a whole
number, and scaled back. -/
def nearestDouble (fraction : Fraction) : Fraction :=
  if fraction.numerator = 0 then whole 0
  else
    let above := 53 + fraction.denominator.log2
    let up := above - fraction.numerator.log2
    let down := fraction.numerator.log2 - above
    let numerator := fraction.numerator * 2 ^ up
    let down :=
      if numerator < fraction.denominator * 2 ^ (down + 53) then down else down + 1
    ⟨round ⟨numerator, fraction.denominator * 2 ^ down⟩ * 2 ^ down, 2 ^ up⟩

end Fraction
end ProvenBlocks
