import ProvenBlocks.Digest
import ProvenBlocks.Utf8.Lemmas

/-!
Prefix codecs: a value is written as bytes and read back from the front of any bytes that start
with its written form. Each codec carries both laws, so every codec built from the combinators
here is lossless and reads nothing but written forms. Lengths and counts take eight bytes, which
is why a list must have fewer than `2 ^ 64` entries to fit.
-/

namespace ProvenBlocks

-- A power means the same beside an algebra library.
attribute [local instance (20000)] instPowNat

inductive DecodeFault where
  | endOfInput
  | shortRun
  | unknownVariant (found bound : Nat)
  | unknownOptionTag (found : Nat)
  | digestLength (found : Nat)
  | text (fault : Utf8.Fault)
  deriving DecidableEq

def DecodeFault.message : DecodeFault → String
  | .endOfInput => "io error: unexpected end of file"
  | .shortRun => "io error: "
  | .unknownVariant found bound =>
      "invalid value: integer `" ++ toString found ++ "`, expected variant index 0 <= i < "
        ++ toString bound
  | .unknownOptionTag found => "tag for enum is not valid, found " ++ toString found
  | .digestLength found =>
      "invalid length " ++ toString found ++ ", expected an byte array of size 48"
  | .text fault => "string is not valid utf8: " ++ fault.message

structure Codec (Value : Type) where
  encode : Value → Bytes
  decode : Bytes → Except DecodeFault (Value × Bytes)
  Fits : Value → Prop
  decode_encode : ∀ value suffix,
    Fits value → decode (encode value ++ suffix) = .ok (value, suffix)
  decode_sound : ∀ {input value suffix},
    decode input = .ok (value, suffix) → Fits value ∧ input = encode value ++ suffix

namespace Codec

variable {α β : Type}

/-- Takes a run of `count` bytes, or fails with `fault` when fewer are left. -/
def takeRun (fault : DecodeFault) (count : Nat) (input : Bytes) :
    Except DecodeFault (Bytes × Bytes) :=
  if count ≤ input.length then .ok (input.take count, input.drop count) else .error fault

theorem take_run_append (fault : DecodeFault) (run suffix : Bytes) :
    takeRun fault run.length (run ++ suffix) = .ok (run, suffix) := by
  simp [takeRun]

theorem take_run_sound {fault : DecodeFault} {count : Nat} {input run suffix : Bytes}
    (taken : takeRun fault count input = .ok (run, suffix)) :
    run.length = count ∧ input = run ++ suffix := by
  simp only [takeRun] at taken
  split at taken
  · cases taken
    exact ⟨by simp_all, (List.take_append_drop count input).symm⟩
  · contradiction

/-- A number of `width` bytes. -/
def natural (width : Nat) : Codec Nat where
  encode := littleEndian width
  decode := fun input => do
    let (run, suffix) ← takeRun .endOfInput width input
    .ok (ofLittleEndian run, suffix)
  Fits := fun value => value < 256 ^ width
  decode_encode := by
    intro value suffix fits
    have taken := take_run_append .endOfInput (littleEndian width value) suffix
    rw [little_endian_length] at taken
    simp only [taken, bind, Except.bind]
    rw [of_little_endian_little_endian fits]
  decode_sound := by
    intro input value suffix decoded
    cases taken : takeRun .endOfInput width input with
    | error fault => simp [taken, bind, Except.bind] at decoded
    | ok pair =>
        obtain ⟨run, rest⟩ := pair
        simp only [taken, bind, Except.bind, Except.ok.injEq, Prod.mk.injEq] at decoded
        obtain ⟨rfl, rfl⟩ := decoded
        obtain ⟨run_length, rfl⟩ := take_run_sound taken
        subst run_length
        exact ⟨of_little_endian_lt run, by rw [little_endian_of_little_endian]⟩

/-- The same bytes under another view of the value; the view may reject what was read. -/
def refine (codec : Codec α) (view : α → Except DecodeFault β) (unview : β → α)
    (view_unview : ∀ value, codec.Fits (unview value) → view (unview value) = .ok value)
    (unview_view : ∀ {raw value},
      codec.Fits raw → view raw = .ok value → unview value = raw) : Codec β where
  encode := fun value => codec.encode (unview value)
  decode := fun input => do
    let (raw, suffix) ← codec.decode input
    let value ← view raw
    .ok (value, suffix)
  Fits := fun value => codec.Fits (unview value)
  decode_encode := by
    intro value suffix fits
    simp only [codec.decode_encode _ suffix fits, bind, Except.bind, view_unview value fits]
  decode_sound := by
    intro input value suffix decoded
    cases rawResult : codec.decode input with
    | error fault => simp [rawResult, bind, Except.bind] at decoded
    | ok pair =>
        obtain ⟨raw, rest⟩ := pair
        cases viewed : view raw with
        | error fault => simp [rawResult, viewed, bind, Except.bind] at decoded
        | ok seen =>
            simp only [rawResult, viewed, bind, Except.bind, Except.ok.injEq,
              Prod.mk.injEq] at decoded
            obtain ⟨rfl, rfl⟩ := decoded
            obtain ⟨fits, input_eq⟩ := codec.decode_sound rawResult
            have same := unview_view fits viewed
            exact ⟨same ▸ fits, same ▸ input_eq⟩

def map (codec : Codec α) (view : α → β) (unview : β → α)
    (view_unview : ∀ value, view (unview value) = value)
    (unview_view : ∀ raw, codec.Fits raw → unview (view raw) = raw) : Codec β :=
  codec.refine (fun raw => .ok (view raw)) unview
    (fun value _ => congrArg Except.ok (view_unview value))
    (fun {raw} {_} fits viewed => by cases viewed; exact unview_view raw fits)

def pair (left : Codec α) (right : Codec β) : Codec (α × β) where
  encode := fun value => left.encode value.1 ++ right.encode value.2
  decode := fun input => do
    let (leftValue, afterLeft) ← left.decode input
    let (rightValue, suffix) ← right.decode afterLeft
    .ok ((leftValue, rightValue), suffix)
  Fits := fun value => left.Fits value.1 ∧ right.Fits value.2
  decode_encode := by
    intro value suffix fits
    rw [List.append_assoc]
    simp only [left.decode_encode value.1 _ fits.1, right.decode_encode value.2 suffix fits.2,
      bind, Except.bind]
  decode_sound := by
    intro input value suffix decoded
    cases leftResult : left.decode input with
    | error fault => simp [leftResult, bind, Except.bind] at decoded
    | ok leftPair =>
        obtain ⟨leftValue, afterLeft⟩ := leftPair
        cases rightResult : right.decode afterLeft with
        | error fault => simp [leftResult, rightResult, bind, Except.bind] at decoded
        | ok rightPair =>
            obtain ⟨rightValue, rest⟩ := rightPair
            simp only [leftResult, rightResult, bind, Except.bind, Except.ok.injEq,
              Prod.mk.injEq] at decoded
            obtain ⟨rfl, rfl⟩ := decoded
            obtain ⟨leftFits, rfl⟩ := left.decode_sound leftResult
            obtain ⟨rightFits, rfl⟩ := right.decode_sound rightResult
            exact ⟨⟨leftFits, rightFits⟩, by rw [List.append_assoc]⟩

/-- A head value whose kind decides how the rest is read. -/
def dependent {κ : Type} {Content : κ → Type} (head : Codec κ)
    (content : (kind : κ) → Codec (Content kind)) : Codec ((kind : κ) × Content kind) where
  encode := fun value => head.encode value.1 ++ (content value.1).encode value.2
  decode := fun input => do
    let (kind, afterHead) ← head.decode input
    let (value, suffix) ← (content kind).decode afterHead
    .ok (⟨kind, value⟩, suffix)
  Fits := fun value => head.Fits value.1 ∧ (content value.1).Fits value.2
  decode_encode := by
    intro value suffix fits
    rw [List.append_assoc]
    simp only [head.decode_encode value.1 _ fits.1,
      (content value.1).decode_encode value.2 suffix fits.2, bind, Except.bind]
  decode_sound := by
    intro input value suffix decoded
    cases headResult : head.decode input with
    | error fault => simp [headResult, bind, Except.bind] at decoded
    | ok headPair =>
        obtain ⟨kind, afterHead⟩ := headPair
        cases contentResult : (content kind).decode afterHead with
        | error fault => simp [headResult, contentResult, bind, Except.bind] at decoded
        | ok contentPair =>
            obtain ⟨inner, rest⟩ := contentPair
            simp only [headResult, contentResult, bind, Except.bind, Except.ok.injEq,
              Prod.mk.injEq] at decoded
            obtain ⟨rfl, rfl⟩ := decoded
            obtain ⟨headFits, rfl⟩ := head.decode_sound headResult
            obtain ⟨contentFits, rfl⟩ := (content kind).decode_sound contentResult
            exact ⟨⟨headFits, contentFits⟩, by rw [List.append_assoc]⟩

def word64 : Codec UInt64 :=
  (natural 8).map UInt64.ofNat UInt64.toNat
    (fun value => UInt64.ofNat_toNat)
    (fun raw fits => by
      have bounded : raw < 2 ^ (64 : Nat) := fits
      simp
      omega)

def word32 : Codec UInt32 :=
  (natural 4).map UInt32.ofNat UInt32.toNat
    (fun value => UInt32.ofNat_toNat)
    (fun raw fits => by
      have bounded : raw < 2 ^ (32 : Nat) := fits
      simp
      omega)

/-- Two's complement in eight bytes. -/
def signed64 : Codec Int64 :=
  word64.map UInt64.toInt64 Int64.toUInt64 (fun _ => rfl) (fun _ _ => rfl)

/-- A choice among `bound` variants, numbered from zero in four bytes. -/
def variant (bound : Nat) : Codec (Fin bound) :=
  (natural 4).refine
    (fun raw => if below : raw < bound then .ok ⟨raw, below⟩ else .error (.unknownVariant raw bound))
    Fin.val
    (fun value _ => by simp)
    (fun {raw} {value} _ viewed => by
      split at viewed
      · cases viewed; rfl
      · contradiction)

/-- A length of eight bytes and that many bytes; `fault` when fewer are left. -/
def run (fault : DecodeFault) : Codec Bytes where
  encode := fun value => (natural 8).encode value.length ++ value
  decode := fun input => do
    let (count, afterCount) ← (natural 8).decode input
    takeRun fault count afterCount
  Fits := fun value => value.length < 2 ^ (64 : Nat)
  decode_encode := by
    intro value suffix fits
    rw [List.append_assoc]
    simp only [(natural 8).decode_encode value.length _ fits, bind, Except.bind, take_run_append]
  decode_sound := by
    intro input value suffix decoded
    cases countResult : (natural 8).decode input with
    | error countFault => simp [countResult, bind, Except.bind] at decoded
    | ok countPair =>
        obtain ⟨count, afterCount⟩ := countPair
        simp only [countResult, bind, Except.bind] at decoded
        obtain ⟨fits, rfl⟩ := (natural 8).decode_sound countResult
        obtain ⟨rfl, rfl⟩ := take_run_sound decoded
        exact ⟨fits, by rw [List.append_assoc]⟩

def bytes : Codec Bytes := run .endOfInput

def readText (raw : Bytes) : Except DecodeFault String :=
  match Utf8.decode raw with
  | .ok characters => .ok (String.ofList characters)
  | .error fault => .error (.text fault)

def writeText (text : String) : Bytes := Utf8.encode text.toList

theorem read_text_write_text (text : String) : readText (writeText text) = .ok text := by
  simp [readText, writeText, Utf8.decode_encode]

theorem write_text_of_read_text {raw : Bytes} {text : String} (viewed : readText raw = .ok text) :
    writeText text = raw := by
  simp only [readText] at viewed
  split at viewed
  · rename_i characters decoded
    cases viewed
    simpa [writeText] using Utf8.encode_of_decode decoded
  · contradiction

def text : Codec String :=
  (run .shortRun).refine readText writeText
    (fun value _ => read_text_write_text value)
    (fun _ viewed => write_text_of_read_text viewed)

def readDigest (raw : Bytes) : Except DecodeFault Digest :=
  match Digest.ofBytes raw with
  | .ok digest => .ok digest
  | .error fault => .error (.digestLength fault.actual)

/-- The length is judged only after the run has been read. -/
def digest : Codec Digest :=
  (run .shortRun).refine readDigest Digest.bytes
    (fun value _ => by simp [readDigest, Digest.of_bytes_bytes])
    (fun {raw} {value} _ viewed => by
      simp only [readDigest, Digest.ofBytes] at viewed
      split at viewed
      · rename_i found
        split at found
        · cases found; cases viewed; rfl
        · contradiction
      · contradiction)

def readOption (codec : Codec α) (tag : Nat) (afterTag : Bytes) :
    Except DecodeFault (Option α × Bytes) :=
  if tag = 0 then .ok (none, afterTag)
  else if tag = 1 then do
    let (value, suffix) ← codec.decode afterTag
    .ok (some value, suffix)
  else .error (.unknownOptionTag tag)

def writeOption (codec : Codec α) : Option α → Bytes
  | none => (natural 1).encode 0
  | some value => (natural 1).encode 1 ++ codec.encode value

def option (codec : Codec α) : Codec (Option α) where
  encode := writeOption codec
  decode := fun input => do
    let (tag, afterTag) ← (natural 1).decode input
    readOption codec tag afterTag
  Fits := fun value => ∀ content ∈ value, codec.Fits content
  decode_encode := by
    intro value suffix fits
    have bounded : ∀ tag, tag < 2 → (natural 1).Fits tag := fun tag small => by
      show tag < 256 ^ (1 : Nat)
      omega
    cases value with
    | none =>
        simp only [writeOption, (natural 1).decode_encode 0 suffix (bounded 0 (by decide)), bind,
          Except.bind]
        rfl
    | some content =>
        rw [writeOption, List.append_assoc]
        simp only [(natural 1).decode_encode 1 _ (bounded 1 (by decide)), bind, Except.bind,
          readOption, codec.decode_encode content suffix (fits content rfl)]
        rfl
  decode_sound := by
    intro input value suffix decoded
    cases tagResult : (natural 1).decode input with
    | error tagFault => simp [tagResult, bind, Except.bind] at decoded
    | ok tagPair =>
        obtain ⟨tag, afterTag⟩ := tagPair
        simp only [tagResult, bind, Except.bind, readOption] at decoded
        obtain ⟨_, rfl⟩ := (natural 1).decode_sound tagResult
        split at decoded
        · rename_i tag_zero
          cases decoded
          subst tag_zero
          exact ⟨by simp, rfl⟩
        · split at decoded
          · rename_i tag_one
            subst tag_one
            cases contentResult : codec.decode afterTag with
            | error contentFault => simp [contentResult] at decoded
            | ok contentPair =>
                obtain ⟨content, rest⟩ := contentPair
                simp only [contentResult, Except.ok.injEq, Prod.mk.injEq] at decoded
                obtain ⟨rfl, rfl⟩ := decoded
                obtain ⟨fits, rfl⟩ := codec.decode_sound contentResult
                refine ⟨?_, by rw [writeOption, List.append_assoc]⟩
                intro found same
                cases same
                exact fits
          · contradiction

def readMany (codec : Codec α) : Nat → Bytes → Except DecodeFault (List α × Bytes)
  | 0, input => .ok ([], input)
  | count + 1, input => do
      let (value, afterValue) ← codec.decode input
      let (values, suffix) ← readMany codec count afterValue
      .ok (value :: values, suffix)

theorem read_many_encode (codec : Codec α) (values : List α) (suffix : Bytes)
    (fits : ∀ value ∈ values, codec.Fits value) :
    readMany codec values.length (values.flatMap codec.encode ++ suffix) = .ok (values, suffix) := by
  induction values with
  | nil => rfl
  | cons value rest inductive_hypothesis =>
      have head := codec.decode_encode value (rest.flatMap codec.encode ++ suffix)
        (fits value (by simp))
      have tail := inductive_hypothesis (fun found member => fits found (by simp [member]))
      simp only [List.length_cons, List.flatMap_cons, List.append_assoc, readMany, head, tail,
        bind, Except.bind]

theorem read_many_sound {codec : Codec α} {count : Nat} {input suffix : Bytes} {values : List α}
    (decoded : readMany codec count input = .ok (values, suffix)) :
    values.length = count ∧ (∀ value ∈ values, codec.Fits value)
      ∧ input = values.flatMap codec.encode ++ suffix := by
  induction count generalizing input values with
  | zero => cases decoded; simp
  | succ count inductive_hypothesis =>
      simp only [readMany] at decoded
      cases headResult : codec.decode input with
      | error fault => simp [headResult, bind, Except.bind] at decoded
      | ok headPair =>
          obtain ⟨value, afterValue⟩ := headPair
          cases tailResult : readMany codec count afterValue with
          | error fault => simp [headResult, tailResult, bind, Except.bind] at decoded
          | ok tailPair =>
              obtain ⟨rest, remaining⟩ := tailPair
              simp only [headResult, tailResult, bind, Except.bind, Except.ok.injEq,
                Prod.mk.injEq] at decoded
              obtain ⟨rfl, rfl⟩ := decoded
              obtain ⟨headFits, rfl⟩ := codec.decode_sound headResult
              obtain ⟨rfl, restFits, rfl⟩ := inductive_hypothesis tailResult
              refine ⟨rfl, ?_, by simp⟩
              intro found member
              cases List.mem_cons.mp member with
              | inl same => exact same ▸ headFits
              | inr inRest => exact restFits found inRest

/-- A count of eight bytes and that many values. -/
def many (codec : Codec α) : Codec (List α) where
  encode := fun values => (natural 8).encode values.length ++ values.flatMap codec.encode
  decode := fun input => do
    let (count, afterCount) ← (natural 8).decode input
    readMany codec count afterCount
  Fits := fun values => values.length < 2 ^ (64 : Nat) ∧ ∀ value ∈ values, codec.Fits value
  decode_encode := by
    intro values suffix fits
    rw [List.append_assoc]
    simp only [(natural 8).decode_encode values.length _ fits.1, bind, Except.bind,
      read_many_encode codec values suffix fits.2]
  decode_sound := by
    intro input values suffix decoded
    cases countResult : (natural 8).decode input with
    | error countFault => simp [countResult, bind, Except.bind] at decoded
    | ok countPair =>
        obtain ⟨count, afterCount⟩ := countPair
        simp only [countResult, bind, Except.bind] at decoded
        obtain ⟨bounded, rfl⟩ := (natural 8).decode_sound countResult
        obtain ⟨rfl, fits, rfl⟩ := read_many_sound decoded
        exact ⟨⟨bounded, fits⟩, by rw [List.append_assoc]⟩

end Codec
end ProvenBlocks
