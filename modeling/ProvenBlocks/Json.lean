import ProvenBlocks.Utf8

/-!
JSON values as their readers need them. Integers are exact and other numbers are known only to be
numbers. A string literal is regular when it denotes Unicode text in the standard way; otherwise
its bytes are kept, with lone surrogates in three bytes, and the fact that it holds control
characters that were not escaped.
-/

namespace ProvenBlocks

inductive Literal where
  | regular (text : String)
  | irregular (content : Bytes) (rawControl : Bool)
  deriving DecidableEq

inductive Json where
  | null
  | bool (value : Bool)
  | integer (value : Int)
  | otherNumber
  | text (literal : Literal)
  | array (elements : List Json)
  | object (members : List (Literal × Json))

def Literal.bytes : Literal → Bytes
  | .regular text => Utf8.encode text.toList
  | .irregular content _ => content

/-- Control characters must be escaped even where nobody looks at the text. -/
def Literal.isTolerable : Literal → Bool
  | .regular _ => true
  | .irregular _ rawControl => !rawControl

namespace Json

mutual

/-- Whether a value may stand where it is ignored. -/
def isTolerable : Json → Bool
  | .null | .bool _ | .integer _ | .otherNumber => true
  | .text literal => literal.isTolerable
  | .array elements => areTolerable elements
  | .object members => areMembersTolerable members

def areTolerable : List Json → Bool
  | [] => true
  | element :: later => isTolerable element && areTolerable later

def areMembersTolerable : List (Literal × Json) → Bool
  | [] => true
  | (name, value) :: later =>
      name.isTolerable && isTolerable value && areMembersTolerable later

end

/-! ### Printing -/

def escapedChar (character : Char) : List Char :=
  match character with
  | '"' => ['\\', '"']
  | '\\' => ['\\', '\\']
  | '\x08' => ['\\', 'b']
  | '\t' => ['\\', 't']
  | '\n' => ['\\', 'n']
  | '\x0c' => ['\\', 'f']
  | '\r' => ['\\', 'r']
  | _ =>
      if character.toNat < 0x20 then
        ['\\', 'u', '0', '0', hexDigit (character.toNat / 16), hexDigit (character.toNat % 16)]
      else [character]

def printText (content : String) (rest : List Char) : List Char :=
  '"' :: content.toList.foldr (fun character after => escapedChar character ++ after) ('"' :: rest)

/-- Irregular literals are read, never written; they print as an empty text. -/
def printLiteral (literal : Literal) (rest : List Char) : List Char :=
  match literal with
  | .regular content => printText content rest
  | .irregular _ _ => printText "" rest

def printInteger (value : Int) (rest : List Char) : List Char :=
  if 0 ≤ value then Nat.toDigits 10 value.toNat ++ rest
  else '-' :: (Nat.toDigits 10 (-value).toNat ++ rest)

/-- Where line breaks go: nowhere, or two spaces for every level of nesting. -/
inductive Layout where
  | compact
  | indented (level : Nat)

namespace Layout

def deeper : Layout → Layout
  | .compact => .compact
  | .indented level => .indented (level + 1)

def lineBreak (layout : Layout) (rest : List Char) : List Char :=
  match layout with
  | .compact => rest
  | .indented level => '\n' :: (List.replicate (2 * level) ' ' ++ rest)

def afterColon (layout : Layout) (rest : List Char) : List Char :=
  match layout with
  | .compact => rest
  | .indented _ => ' ' :: rest

end Layout

mutual

/-- The text of a value, followed by `rest`. -/
def print (layout : Layout) : Json → List Char → List Char
  | .null, rest => "null".toList ++ rest
  | .bool true, rest => "true".toList ++ rest
  | .bool false, rest => "false".toList ++ rest
  | .integer value, rest => printInteger value rest
  | .otherNumber, rest => '0' :: '.' :: '0' :: rest
  | .text literal, rest => printLiteral literal rest
  | .array [], rest => '[' :: ']' :: rest
  | .array (first :: later), rest =>
      '[' :: layout.deeper.lineBreak
        (print layout.deeper first
          (printElements layout.deeper later (layout.lineBreak (']' :: rest))))
  | .object [], rest => '\x7b' :: '\x7d' :: rest
  | .object ((name, value) :: later), rest =>
      '\x7b' :: layout.deeper.lineBreak
        (printLiteral name (':' :: layout.afterColon
          (print layout.deeper value
            (printMembers layout.deeper later (layout.lineBreak ('\x7d' :: rest))))))

def printElements (layout : Layout) : List Json → List Char → List Char
  | [], rest => rest
  | element :: later, rest =>
      ',' :: layout.lineBreak (print layout element (printElements layout later rest))

def printMembers (layout : Layout) : List (Literal × Json) → List Char → List Char
  | [], rest => rest
  | (name, value) :: later, rest =>
      ',' :: layout.lineBreak
        (printLiteral name (':' :: layout.afterColon
          (print layout value (printMembers layout later rest))))

end

def compactText (json : Json) : String := String.ofList (print .compact json [])

def indentedText (json : Json) : List Char := print (.indented 0) json []

end Json
end ProvenBlocks
