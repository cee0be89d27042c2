import ProvenBlocks.Decimal.Whole
import ProvenBlocks.Text.Blank
import ProvenBlocks.Word

/-!
Settings given as named texts. Whole numbers may stand between white space.
-/

namespace ProvenBlocks

-- A power means the same beside an algebra library.
attribute [local instance (20000)] instPowNat

/-- Names and their values; a name that is missing leaves the default. -/
abbrev Environment := List (String × String)

/-- A value that is no whole number of its range. -/
structure BadNumber where
  name : String
  raw : String
  fault : Decimal.WholeFault

/-- Contexts from the outermost on, the cause last. -/
abbrev ErrorTrail := List String

namespace Environment

def get? (environment : Environment) (name : String) : Option String := environment.lookup name

def whole? (environment : Environment) (limit : Nat) (name : String) :
    Except BadNumber (Option Nat) :=
  match environment.get? name with
  | none => .ok none
  | some raw =>
      match Decimal.readWhole limit (Text.trim raw.toList) with
      | .ok value => .ok (some value)
      | .error fault => .error ⟨name, raw, fault⟩

def word64? (environment : Environment) (name : String) : Except BadNumber (Option UInt64) :=
  (environment.whole? (2 ^ (64 : Nat)) name).map fun value => value.map UInt64.ofNat

def word32? (environment : Environment) (name : String) : Except BadNumber (Option UInt32) :=
  (environment.whole? (2 ^ (32 : Nat)) name).map fun value => value.map UInt32.ofNat

end Environment
end ProvenBlocks
