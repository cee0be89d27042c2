import ProvenBlocks.Digest
import ProvenBlocks.Json

/-!
Schemas: how values of a type are written as JSON and read from it. Every schema carries the law
that reading undoes writing.
-/

namespace ProvenBlocks

-- A power means the same beside an algebra library.
attribute [local instance (20000)] instPowNat

structure Schema (α : Type) where
  write : α → Json
  read : Json → Option α
  read_write : ∀ value, read (write value) = some value

namespace Schema

variable {α β : Type}

def readInteger (low high : Int) : Json → Option Int
  | .integer value => if low ≤ value ∧ value < high then some value else none
  | _ => none

theorem read_integer_within {low high value : Int} (above : low ≤ value) (below : value < high) :
    readInteger low high (.integer value) = some value :=
  if_pos ⟨above, below⟩

def word64 : Schema UInt64 where
  write := fun value => .integer value.toNat
  read := fun json =>
    (readInteger 0 (2 ^ (64 : Nat)) json).map fun value => UInt64.ofNat value.toNat
  read_write := by
    intro value
    have bounded := value.toNat_lt
    rw [read_integer_within (by omega) (by omega)]
    simp

def word32 : Schema UInt32 where
  write := fun value => .integer value.toNat
  read := fun json =>
    (readInteger 0 (2 ^ (32 : Nat)) json).map fun value => UInt32.ofNat value.toNat
  read_write := by
    intro value
    have bounded := value.toNat_lt
    rw [read_integer_within (by omega) (by omega)]
    simp

def byte : Schema UInt8 where
  write := fun value => .integer value.toNat
  read := fun json => (readInteger 0 256 json).map fun value => UInt8.ofNat value.toNat
  read_write := by
    intro value
    have bounded := value.toNat_lt
    rw [read_integer_within (by omega) (by omega)]
    simp

def signed64 : Schema Int64 where
  write := fun value => .integer value.toInt
  read := fun json => (readInteger (-2 ^ (63 : Nat)) (2 ^ (63 : Nat)) json).map Int64.ofInt
  read_write := by
    intro value
    have low := value.le_toInt
    have high := value.toInt_lt
    rw [read_integer_within low high]
    simp

def readBool : Json → Option Bool
  | .bool value => some value
  | _ => none

def bool : Schema Bool where
  write := .bool
  read := readBool
  read_write := fun _ => rfl

def readText : Json → Option String
  | .text (.regular content) => some content
  | _ => none

def text : Schema String where
  write := fun content => .text (.regular content)
  read := readText
  read_write := fun _ => rfl

def readAll (schema : Schema α) : List Json → Option (List α)
  | [] => some []
  | element :: later => do
      let value ← schema.read element
      let values ← readAll schema later
      some (value :: values)

theorem read_all_write (schema : Schema α) (values : List α) :
    readAll schema (values.map schema.write) = some values := by
  induction values with
  | nil => rfl
  | cons value later inductive_hypothesis =>
      simp [readAll, schema.read_write, inductive_hypothesis]

def readList (schema : Schema α) : Json → Option (List α)
  | .array elements => readAll schema elements
  | _ => none

def list (schema : Schema α) : Schema (List α) where
  write := fun values => .array (values.map schema.write)
  read := readList schema
  read_write := fun values => read_all_write schema values

def bytes : Schema Bytes := list byte

/-- The bytes of an array of numbers, or those of a string. -/
def readRun : Json → Option Bytes
  | .text literal => some literal.bytes
  | json => bytes.read json

def readDigest (json : Json) : Option Digest :=
  match readRun json with
  | none => none
  | some run => (Digest.ofBytes run).toOption

def digest : Schema Digest where
  write := fun value => bytes.write value.bytes
  read := readDigest
  read_write := by
    intro value
    have run : readRun (bytes.write value.bytes) = some value.bytes := bytes.read_write value.bytes
    simp only [readDigest, run, Digest.of_bytes_bytes]
    rfl

def writeOption (schema : Schema α) : Option α → Json
  | none => .null
  | some value => schema.write value

/-- A field that may be missing or null. -/
def readOption (schema : Schema α) : Option Json → Option (Option α)
  | none => some none
  | some .null => some none
  | some json => (schema.read json).map some

/-- A schema that never writes null. -/
def Visible (schema : Schema α) : Prop := ∀ value, schema.write value ≠ .null

theorem read_option_write {schema : Schema α} (visible : schema.Visible) (value : Option α) :
    readOption schema (some (writeOption schema value)) = some value := by
  cases value with
  | none => rfl
  | some content =>
      have shown := visible content
      have back := schema.read_write content
      simp only [writeOption]
      generalize schema.write content = json at shown back ⊢
      cases json <;> simp_all [readOption]

theorem word64_visible : word64.Visible := fun _ => by simp [word64]

/-! ### Choices -/

/-- The name and content of a variant: a bare name, or an object with one field. -/
def variantParts : Json → Option (String × Option Json)
  | .text (.regular name) => some (name, none)
  | .object [(.regular name, content)] => some (name, some content)
  | _ => none

/-- A variant without content may carry null. -/
def isUnit : Option Json → Bool
  | none | some .null => true
  | some _ => false

def variantOf (name : String) (content : Json) : Json := .object [(.regular name, content)]

end Schema
end ProvenBlocks
