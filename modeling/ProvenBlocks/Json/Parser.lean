import ProvenBlocks.Json

/-!
Reading JSON text. The whole text must be one value with blanks around it; anything else is
refused without a reason.
-/

namespace ProvenBlocks
namespace Json

def isBlank (character : Char) : Bool :=
  character == ' ' || character == '\n' || character == '\t' || character == '\r'

def skipBlanks : List Char → List Char
  | [] => []
  | character :: rest => if isBlank character then skipBlanks rest else character :: rest

/-! ### String literals -/

/-- What a literal is made of: characters as they stand, and escaped UTF-16 units. -/
inductive Piece where
  | raw (character : Char)
  | escape (unit : Nat)

def hexValue (character : Char) : Option Nat :=
  let code := character.toNat
  if 48 ≤ code ∧ code ≤ 57 then some (code - 48)
  else if 97 ≤ code ∧ code ≤ 102 then some (code - 87)
  else if 65 ≤ code ∧ code ≤ 70 then some (code - 55)
  else none

def hexUnit (a b c d : Char) : Option Nat := do
  let a ← hexValue a
  let b ← hexValue b
  let c ← hexValue c
  let d ← hexValue d
  some (a * 4096 + b * 256 + c * 16 + d)

/-- The characters that a backslash and one letter stand for. -/
def shortEscape (letter : Char) : Option Char :=
  match letter with
  | '"' => some '"'
  | '\\' => some '\\'
  | '/' => some '/'
  | 'b' => some '\x08'
  | 'f' => some '\x0c'
  | 'n' => some '\n'
  | 'r' => some '\r'
  | 't' => some '\t'
  | _ => none

/-- Reads up to the closing quote; the pieces read so far come newest first. -/
def literalPieces (seen : List Piece) : List Char → Option (List Piece × List Char)
  | [] => none
  | '"' :: rest => some (seen.reverse, rest)
  | '\\' :: 'u' :: a :: b :: c :: d :: rest =>
      match hexUnit a b c d with
      | some unit => literalPieces (.escape unit :: seen) rest
      | none => none
  | '\\' :: letter :: rest =>
      match shortEscape letter with
      | some character => literalPieces (.escape character.toNat :: seen) rest
      | none => none
  | character :: rest => literalPieces (.raw character :: seen) rest

/-- A Unicode scalar value, or a surrogate that has no partner. -/
inductive Mark where
  | scalar (character : Char)
  | lone (surrogate : Nat)

def isHigh (unit : Nat) : Bool := 0xD800 ≤ unit && unit ≤ 0xDBFF

def isLow (unit : Nat) : Bool := 0xDC00 ≤ unit && unit ≤ 0xDFFF

def markOf (unit : Nat) : Mark :=
  if isHigh unit || isLow unit then .lone unit else .scalar (Char.ofNat unit)

/-- Two escaped units that stand together and form a pair are one character. -/
def joinPieces (seen : List Mark) : List Piece → List Mark
  | [] => seen.reverse
  | .escape high :: .escape low :: rest =>
      if isHigh high && isLow low then
        joinPieces
          (.scalar (Char.ofNat (0x10000 + (high - 0xD800) * 0x400 + (low - 0xDC00))) :: seen) rest
      else joinPieces (markOf high :: seen) (.escape low :: rest)
  | .escape unit :: rest => joinPieces (markOf unit :: seen) rest
  | .raw character :: rest => joinPieces (.scalar character :: seen) rest

def Mark.scalar? : Mark → Option Char
  | .scalar character => some character
  | .lone _ => none

def Mark.bytes : Mark → Bytes
  | .scalar character => Utf8.encodeChar character
  | .lone surrogate =>
      [UInt8.ofNat (0xE0 + surrogate / 4096), UInt8.ofNat (0x80 + surrogate / 64 % 64),
        UInt8.ofNat (0x80 + surrogate % 64)]

def Piece.isRawControl : Piece → Bool
  | .raw character => character.toNat < 0x20
  | .escape _ => false

def literalOfPieces (pieces : List Piece) : Literal :=
  let rawControl := pieces.any Piece.isRawControl
  let marks := joinPieces [] pieces
  let characters := marks.filterMap Mark.scalar?
  if rawControl || characters.length != marks.length then
    .irregular (marks.flatMap Mark.bytes) rawControl
  else .regular (String.ofList characters)

def literal (input : List Char) : Option (Literal × List Char) := do
  let (pieces, rest) ← literalPieces [] input
  some (literalOfPieces pieces, rest)

/-! ### Numbers -/

def isDigit (character : Char) : Bool := '0' ≤ character && character ≤ '9'

/-- Digits without a needless zero in front. -/
def wholeDigits (input : List Char) : Option (List Char × List Char) :=
  match input.span isDigit with
  | ([], _) => none
  | (['0'], rest) => some (['0'], rest)
  | ('0' :: _ :: _, _) => none
  | (digits, rest) => some (digits, rest)

def someDigits (input : List Char) : Option (List Char) :=
  match input.span isDigit with
  | ([], _) => none
  | (_, rest) => some rest

/-- The rest after a fraction and an exponent, and whether there was one. -/
def numberTail (input : List Char) : Option (Bool × List Char) := do
  let (fraction, rest) ←
    match input with
    | '.' :: rest => (someDigits rest).map (true, ·)
    | rest => some (false, rest)
  match rest with
  | mark :: afterMark =>
      if mark == 'e' || mark == 'E' then
        let digits :=
          match afterMark with
          | sign :: afterSign => if sign == '+' || sign == '-' then afterSign else afterMark
          | [] => []
        (someDigits digits).map (true, ·)
      else some (fraction, rest)
  | [] => some (fraction, [])

def unsignedNumber (negative : Bool) (input : List Char) : Option (Json × List Char) := do
  let (digits, afterDigits) ← wholeDigits input
  let (hasTail, rest) ← numberTail afterDigits
  let magnitude := Nat.ofDigitChars 10 digits 0
  if hasTail || (negative && magnitude == 0) then some (.otherNumber, rest)
  else some (.integer (if negative then -(magnitude : Int) else magnitude), rest)

def number : List Char → Option (Json × List Char)
  | '-' :: rest => unsignedNumber true rest
  | input => unsignedNumber false input

/-! ### Values -/

mutual

/-- Reads one value after blanks. The fuel bounds the number of values and separators. -/
def value : Nat → List Char → Option (Json × List Char)
  | 0, _ => none
  | fuel + 1, input =>
      match skipBlanks input with
      | 'n' :: 'u' :: 'l' :: 'l' :: rest => some (.null, rest)
      | 't' :: 'r' :: 'u' :: 'e' :: rest => some (.bool true, rest)
      | 'f' :: 'a' :: 'l' :: 's' :: 'e' :: rest => some (.bool false, rest)
      | '"' :: rest => do
          let (content, rest) ← literal rest
          some (.text content, rest)
      | '[' :: rest =>
          match skipBlanks rest with
          | ']' :: rest => some (.array [], rest)
          | rest => elements fuel [] rest
      | '\x7b' :: rest =>
          match skipBlanks rest with
          | '\x7d' :: rest => some (.object [], rest)
          | rest => members fuel [] rest
      | input => number input

def elements : Nat → List Json → List Char → Option (Json × List Char)
  | 0, _, _ => none
  | fuel + 1, seen, input => do
      let (element, rest) ← value fuel input
      match skipBlanks rest with
      | ',' :: rest => elements fuel (element :: seen) rest
      | ']' :: rest => some (.array (element :: seen).reverse, rest)
      | _ => none

def members : Nat → List (Literal × Json) → List Char → Option (Json × List Char)
  | 0, _, _ => none
  | fuel + 1, seen, input =>
      match skipBlanks input with
      | '"' :: afterQuote => do
          let (name, afterName) ← literal afterQuote
          match skipBlanks afterName with
          | ':' :: afterColon => do
              let (content, rest) ← value fuel afterColon
              match skipBlanks rest with
              | ',' :: rest => members fuel ((name, content) :: seen) rest
              | '\x7d' :: rest => some (.object ((name, content) :: seen).reverse, rest)
              | _ => none
          | _ => none
      | _ => none

end

def parseChars (input : List Char) : Option Json := do
  let (json, rest) ← value (input.length + 1) input
  if (skipBlanks rest).isEmpty then some json else none

def parse (input : String) : Option Json := parseChars input.toList

end Json
end ProvenBlocks
