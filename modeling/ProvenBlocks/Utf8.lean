import ProvenBlocks.Word

/-!
UTF-8 between characters and bytes. Reading refuses every form that is not the shortest form of a
Unicode scalar value and says where the first bad sequence starts.
-/

namespace ProvenBlocks
namespace Utf8

inductive Fault where
  | invalid (length index : Nat)
  | incomplete (index : Nat)
  deriving DecidableEq

def Fault.message : Fault → String
  | .invalid length index =>
      "invalid utf-8 sequence of " ++ toString length ++ " bytes from index " ++ toString index
  | .incomplete index => "incomplete utf-8 byte sequence from index " ++ toString index

def encodeChar (character : Char) : Bytes :=
  let code := character.toNat
  if code < 0x80 then [UInt8.ofNat code]
  else if code < 0x800 then [UInt8.ofNat (0xC0 + code / 64), UInt8.ofNat (0x80 + code % 64)]
  else if code < 0x10000 then
    [UInt8.ofNat (0xE0 + code / 4096), UInt8.ofNat (0x80 + code / 64 % 64),
      UInt8.ofNat (0x80 + code % 64)]
  else
    [UInt8.ofNat (0xF0 + code / 262144), UInt8.ofNat (0x80 + code / 4096 % 64),
      UInt8.ofNat (0x80 + code / 64 % 64), UInt8.ofNat (0x80 + code % 64)]

def encode (characters : List Char) : Bytes := characters.flatMap encodeChar

def isContinuation (byte : UInt8) : Bool := 0x80 ≤ byte.toNat && byte.toNat < 0xC0

/-- The second byte also rules out longer forms than needed, surrogates, and codes beyond the
last scalar value. -/
def isSecond (lead second : UInt8) : Bool :=
  isContinuation second
    && (lead.toNat != 0xE0 || 0xA0 ≤ second.toNat)
    && (lead.toNat != 0xED || second.toNat < 0xA0)
    && (lead.toNat != 0xF0 || 0x90 ≤ second.toNat)
    && (lead.toNat != 0xF4 || second.toNat < 0x90)

def char2 (lead second : UInt8) : Char :=
  Char.ofNat ((lead.toNat - 0xC0) * 64 + (second.toNat - 0x80))

def char3 (lead second third : UInt8) : Char :=
  Char.ofNat
    ((lead.toNat - 0xE0) * 4096 + (second.toNat - 0x80) * 64 + (third.toNat - 0x80))

def char4 (lead second third fourth : UInt8) : Char :=
  Char.ofNat
    ((lead.toNat - 0xF0) * 262144 + (second.toNat - 0x80) * 4096
      + (third.toNat - 0x80) * 64 + (fourth.toNat - 0x80))

/-- Reads on from `index`; the characters read so far come newest first. -/
def decodeFrom (index : Nat) (seen : List Char) : Bytes → Except Fault (List Char)
  | [] => .ok seen.reverse
  | lead :: afterLead =>
      if lead.toNat < 0x80 then
        decodeFrom (index + 1) (Char.ofNat lead.toNat :: seen) afterLead
      else if lead.toNat < 0xC2 then .error (.invalid 1 index)
      else if lead.toNat < 0xE0 then
        match afterLead with
        | [] => .error (.incomplete index)
        | second :: afterSecond =>
            if isContinuation second then
              decodeFrom (index + 2) (char2 lead second :: seen) afterSecond
            else .error (.invalid 1 index)
      else if lead.toNat < 0xF0 then
        match afterLead with
        | [] => .error (.incomplete index)
        | second :: afterSecond =>
            if isSecond lead second then
              match afterSecond with
              | [] => .error (.incomplete index)
              | third :: afterThird =>
                  if isContinuation third then
                    decodeFrom (index + 3) (char3 lead second third :: seen) afterThird
                  else .error (.invalid 2 index)
            else .error (.invalid 1 index)
      else if lead.toNat < 0xF5 then
        match afterLead with
        | [] => .error (.incomplete index)
        | second :: afterSecond =>
            if isSecond lead second then
              match afterSecond with
              | [] => .error (.incomplete index)
              | third :: afterThird =>
                  if isContinuation third then
                    match afterThird with
                    | [] => .error (.incomplete index)
                    | fourth :: afterFourth =>
                        if isContinuation fourth then
                          decodeFrom (index + 4) (char4 lead second third fourth :: seen)
                            afterFourth
                        else .error (.invalid 3 index)
                  else .error (.invalid 2 index)
            else .error (.invalid 1 index)
      else .error (.invalid 1 index)

def decode (bytes : Bytes) : Except Fault (List Char) := decodeFrom 0 [] bytes

end Utf8
end ProvenBlocks
