import Multitarget.Text.Integer

/-!
# UTF-8

Text is stored as UTF-8. Decoding accepts shortest forms of scalar values only
and reports the first sequence that is none: where it starts, which bytes of it
were read, and what is wrong with it.
-/

namespace Multitarget.Text

/-- The content of a file. -/
abbrev Bytes := List UInt8

namespace Utf8

/-- The bytes of one character: its code point in groups of six bits behind a lead byte. -/
def encodeChar (character : Char) : Bytes :=
  let code := character.toNat
  let tail (bits : Nat) : UInt8 := .ofNat (0x80 + bits % 64)
  if code < 0x80 then [.ofNat code]
  else if code < 0x800 then [.ofNat (0xC0 + code / 64), tail code]
  else if code < 0x10000 then [.ofNat (0xE0 + code / 4096), tail (code / 64), tail code]
  else
    [.ofNat (0xF0 + code / 262144), tail (code / 4096), tail (code / 64), tail code]

/-- The bytes of a text. -/
def encodeChars (text : List Char) : Bytes :=
  text.flatMap encodeChar

/-- The bytes of a text. -/
def encode (text : String) : Bytes :=
  encodeChars text.toList

/-- What is wrong with a byte sequence. -/
inductive Reason where
  /-- No character starts with this byte. -/
  | invalidStart
  /-- The byte after the sequence does not continue it. -/
  | invalidContinuation
  /-- The bytes end within a character. -/
  | cutOff
  deriving DecidableEq, Repr

/-- The first sequence of bytes that is no character. -/
structure Malformed where
  /-- The position of its first byte. -/
  position : Nat
  /-- Its first byte. -/
  lead : UInt8
  /-- How many bytes belong to it. -/
  length : Nat
  /-- What is wrong with it. -/
  reason : Reason
  deriving DecidableEq, Repr

/-- The least and greatest second byte after a lead byte of three or four bytes: they keep out
longer forms than needed, surrogates and values above the last code point. -/
def secondByte (lead : Nat) : Nat × Nat :=
  if lead = 0xE0 then (0xA0, 0xBF)
  else if lead = 0xED then (0x80, 0x9F)
  else if lead = 0xF0 then (0x90, 0xBF)
  else if lead = 0xF4 then (0x80, 0x8F)
  else (0x80, 0xBF)

/-- Whether a byte continues a character. -/
def isContinuation (byte : Nat) : Bool :=
  decide (0x80 ≤ byte) && decide (byte ≤ 0xBF)

/-- Whether a byte may stand second behind the lead byte. -/
def isSecond (lead byte : Nat) : Bool :=
  decide ((secondByte lead).1 ≤ byte) && decide (byte ≤ (secondByte lead).2)

/-- Decodes bytes of which the first has the given position. -/
def decodeFrom (position : Nat) : Bytes → Except Malformed (List Char)
  | [] => .ok []
  | first :: rest =>
    let lead := first.toNat
    let fail (length : Nat) (reason : Reason) : Except Malformed (List Char) :=
      .error ⟨position, first, length, reason⟩
    let emit (code : Nat) (decoded : Except Malformed (List Char)) :
        Except Malformed (List Char) :=
      decoded.map (Char.ofNat code :: ·)
    if lead < 0x80 then emit lead (decodeFrom (position + 1) rest)
    else if lead < 0xC2 then fail 1 .invalidStart
    else if lead < 0xE0 then
      match rest with
      | [] => fail 1 .cutOff
      | second :: rest =>
        if isContinuation second.toNat then
          emit (lead % 32 * 64 + second.toNat % 64) (decodeFrom (position + 2) rest)
        else fail 1 .invalidContinuation
    else if lead < 0xF0 then
      match rest with
      | [] => fail 1 .cutOff
      | second :: rest =>
        if isSecond lead second.toNat then
          match rest with
          | [] => fail 2 .cutOff
          | third :: rest =>
            if isContinuation third.toNat then
              emit (lead % 16 * 4096 + second.toNat % 64 * 64 + third.toNat % 64)
                (decodeFrom (position + 3) rest)
            else fail 2 .invalidContinuation
        else fail 1 .invalidContinuation
    else if lead < 0xF5 then
      match rest with
      | [] => fail 1 .cutOff
      | second :: rest =>
        if isSecond lead second.toNat then
          match rest with
          | [] => fail 2 .cutOff
          | third :: rest =>
            if isContinuation third.toNat then
              match rest with
              | [] => fail 3 .cutOff
              | fourth :: rest =>
                if isContinuation fourth.toNat then
                  emit (lead % 8 * 262144 + second.toNat % 64 * 4096 + third.toNat % 64 * 64
                    + fourth.toNat % 64) (decodeFrom (position + 4) rest)
                else fail 3 .invalidContinuation
            else fail 2 .invalidContinuation
        else fail 1 .invalidContinuation
    else fail 1 .invalidStart

/-- The text that the bytes are the UTF-8 form of. -/
def decode (bytes : Bytes) : Except Malformed (List Char) :=
  decodeFrom 0 bytes

/-- The wording of a reason. -/
def Reason.message : Reason → String
  | .invalidStart => "invalid start byte"
  | .invalidContinuation => "invalid continuation byte"
  | .cutOff => "unexpected end of data"

/-- The wording of a decoding failure: one byte is shown, several are located only. -/
def Malformed.message (failure : Malformed) : String :=
  let place :=
    if failure.length = 1 then
      "byte 0x" ++ String.ofList (hexadecimal 2 failure.lead.toNat) ++ " in position "
        ++ String.ofList (decimal failure.position)
    else
      "bytes in position " ++ String.ofList (decimal failure.position) ++ "-"
        ++ String.ofList (decimal (failure.position + failure.length - 1))
  "'utf-8' codec can't decode " ++ place ++ ": " ++ failure.reason.message

end Utf8

end Multitarget.Text
