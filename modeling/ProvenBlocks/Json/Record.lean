import ProvenBlocks.Json.Schema

/-!
Records in JSON. A record is an object whose fields come in any order, each at most once, beside
fields that are ignored; it may also be the array of all its fields in order. Fields are written
in their declared order, and what is written is read back.
-/

namespace ProvenBlocks
namespace Json

/-- Known fields take their values; unknown ones are ignored if their text is tolerable. -/
def isField (names : List String) (member : Literal × Json) : Bool :=
  match member.1 with
  | .regular name => names.contains name || member.2.isTolerable
  | .irregular _ _ => false

def isNamed (name : String) (member : Literal × Json) : Bool := member.1 == .regular name

def fieldNamed (members : List (Literal × Json)) (name : String) : Option Json :=
  (members.find? (isNamed name)).map Prod.snd

def isRecord (names : List String) (members : List (Literal × Json)) : Bool :=
  members.all (isField names)
    && names.all fun name => members.countP (isNamed name) ≤ 1

/-- The fields of a record in the order of their names. -/
def fields (names : List String) : Json → Option (List (Option Json))
  | .object members =>
      if isRecord names members then some (names.map (fieldNamed members)) else none
  | .array elements =>
      if elements.length = names.length then some (elements.map some) else none
  | _ => none

/-- As `fields`, for records whose fields all have defaults: an array may end early. -/
def defaultedFields (names : List String) : Json → Option (List (Option Json))
  | .array elements =>
      if elements.length ≤ names.length then
        some (elements.map some ++ List.replicate (names.length - elements.length) none)
      else none
  | json => fields names json

def membersOf (names : List String) (values : List Json) : List (Literal × Json) :=
  (names.zip values).map fun member => (.regular member.1, member.2)

theorem is_named_regular (name other : String) (value : Json) :
    isNamed name (.regular other, value) = (other == name) := by
  rw [Bool.eq_iff_iff]
  simp [isNamed]

theorem count_named_absent {names : List String} {name : String} (absent : name ∉ names)
    (values : List Json) : (membersOf names values).countP (isNamed name) = 0 := by
  induction names generalizing values with
  | nil => rfl
  | cons first later inductive_hypothesis =>
      cases values with
      | nil => rfl
      | cons value values =>
          simp only [List.mem_cons, not_or] at absent
          have different : (first == name) = false := by
            simp [Ne.symm absent.1]
          have rest := inductive_hypothesis absent.2 values
          simp only [membersOf, List.zip_cons_cons, List.map_cons] at rest ⊢
          rw [List.countP_cons, is_named_regular, different]
          simpa using rest

theorem count_named_le {names : List String} (distinct : names.Nodup) (values : List Json)
    (name : String) : (membersOf names values).countP (isNamed name) ≤ 1 := by
  induction names generalizing values with
  | nil => simp [membersOf]
  | cons first later inductive_hypothesis =>
      cases values with
      | nil => simp [membersOf]
      | cons value values =>
          have rest := inductive_hypothesis (List.nodup_cons.mp distinct).2 values
          by_cases same : first = name
          · have absent : name ∉ later := same ▸ (List.nodup_cons.mp distinct).1
            have none_left := count_named_absent absent values
            simp only [membersOf, List.zip_cons_cons, List.map_cons] at none_left ⊢
            rw [List.countP_cons, none_left]
            split <;> omega
          · have different : (first == name) = false := by simp [same]
            simp only [membersOf, List.zip_cons_cons, List.map_cons] at rest ⊢
            rw [List.countP_cons, is_named_regular, different]
            simpa using rest

theorem members_are_fields (names : List String) (values : List Json) :
    (membersOf names values).all (isField names) = true := by
  simp only [List.all_eq_true, membersOf, List.mem_map]
  rintro member ⟨pair, among, rfl⟩
  have known : pair.1 ∈ names := List.of_mem_zip among |>.1
  simp [isField, known]

theorem fields_by_name {names : List String} (distinct : names.Nodup) {values : List Json}
    (sizes : values.length = names.length) :
    names.map (fieldNamed (membersOf names values)) = values.map some := by
  induction names generalizing values with
  | nil =>
      have empty : values = [] := List.length_eq_zero_iff.mp sizes
      simp [empty]
  | cons first later inductive_hypothesis =>
      cases values with
      | nil => simp at sizes
      | cons value values =>
          have tail_sizes : values.length = later.length := by simpa using sizes
          have rest := inductive_hypothesis (List.nodup_cons.mp distinct).2 tail_sizes
          simp only [List.map_cons, List.cons.injEq]
          constructor
          · simp [fieldNamed, membersOf, is_named_regular]
          · rw [← rest]
            apply List.map_congr_left
            intro name among
            have different : (first == name) = false := by
              have absent := (List.nodup_cons.mp distinct).1
              simp only [beq_eq_false_iff_ne, ne_eq]
              rintro rfl
              exact absent among
            simp only [fieldNamed, membersOf, List.zip_cons_cons, List.map_cons]
            rw [List.find?_cons_of_neg (by simp [is_named_regular, different])]

theorem fields_object {names : List String} (distinct : names.Nodup) {values : List Json}
    (sizes : values.length = names.length) :
    fields names (.object (membersOf names values)) = some (values.map some) := by
  have record : isRecord names (membersOf names values) = true := by
    simp only [isRecord, members_are_fields, Bool.true_and, List.all_eq_true, decide_eq_true_eq]
    exact fun name _ => count_named_le distinct values name
  simp only [fields, record, if_true, fields_by_name distinct sizes]

end Json

/-- Named fields in order, before they are made a record. -/
structure Fields (α : Type) where
  names : List String
  write : α → List Json
  read : List (Option Json) → Option α
  length_write : ∀ value, (write value).length = names.length
  read_write : ∀ value, read ((write value).map some) = some value

namespace Fields

variable {α β : Type}

def readRequired (schema : Schema α) : List (Option Json) → Option α
  | [some json] => schema.read json
  | _ => none

def required (name : String) (schema : Schema α) : Fields α where
  names := [name]
  write := fun value => [schema.write value]
  read := readRequired schema
  length_write := fun _ => rfl
  read_write := schema.read_write

def readOptional (schema : Schema α) : List (Option Json) → Option (Option α)
  | [found] => Schema.readOption schema found
  | _ => none

/-- A field that may be missing or null. -/
def optional (name : String) (schema : Schema α) (visible : schema.Visible) :
    Fields (Option α) where
  names := [name]
  write := fun value => [Schema.writeOption schema value]
  read := readOptional schema
  length_write := fun _ => rfl
  read_write := Schema.read_option_write visible

def pair (first : Fields α) (second : Fields β) : Fields (α × β) where
  names := first.names ++ second.names
  write := fun value => first.write value.1 ++ second.write value.2
  read := fun found => do
    let left ← first.read (found.take first.names.length)
    let right ← second.read (found.drop first.names.length)
    some (left, right)
  length_write := by
    intro value
    simp [first.length_write, second.length_write]
  read_write := by
    intro value
    have size : ((first.write value.1).map some).length = first.names.length := by
      simp [first.length_write]
    rw [List.map_append, ← size, List.take_left, List.drop_left, first.read_write,
      second.read_write]
    rfl

/-- The record with these fields. -/
def record (fields : Fields α) (make : α → β) (parts : β → α) (distinct : fields.names.Nodup)
    (make_parts : ∀ value, make (parts value) = value) : Schema β where
  write := fun value => .object (Json.membersOf fields.names (fields.write (parts value)))
  read := fun json => do
    let found ← Json.fields fields.names json
    (fields.read found).map make
  read_write := by
    intro value
    rw [Json.fields_object distinct (fields.length_write (parts value))]
    simp [fields.read_write, make_parts]

theorem record_visible (fields : Fields α) (make : α → β) (parts : β → α)
    (distinct : fields.names.Nodup) (make_parts : ∀ value, make (parts value) = value) :
    (fields.record make parts distinct make_parts).Visible := by
  intro value null
  simp [record] at null

end Fields
end ProvenBlocks
