import Multitarget.Text.Utf8

/-!
# Base 64

Bytes as text over 64 characters, with padding. Writing uses the alphabet that
is safe in addresses (minus and underscore); reading of embedded binary data
uses the ordinary alphabet and passes over characters that are none of it.
-/

namespace Multitarget.Text.Base64

/-- The character of a six-bit value in the alphabet safe in addresses. -/
def character (value : Nat) : Char :=
  if value < 26 then Char.ofNat (65 + value)
  else if value < 52 then Char.ofNat (71 + value)
  else if value < 62 then Char.ofNat (value - 4)
  else if value = 62 then '-'
  else '_'

/-- The bytes in groups of three, the last group padded. -/
def encode : Bytes → List Char
  | [] => []
  | [a] =>
    [character (a.toNat / 4), character (a.toNat % 4 * 16), '=', '=']
  | [a, b] =>
    [character (a.toNat / 4), character (a.toNat % 4 * 16 + b.toNat / 16),
      character (b.toNat % 16 * 4), '=']
  | a :: b :: c :: rest =>
    character (a.toNat / 4) :: character (a.toNat % 4 * 16 + b.toNat / 16)
      :: character (b.toNat % 16 * 4 + c.toNat / 64) :: character (c.toNat % 64) :: encode rest

/-- The six-bit value of a character of the ordinary alphabet. -/
def value (character : Char) : Option Nat :=
  let code := character.toNat
  if 65 ≤ code ∧ code ≤ 90 then some (code - 65)
  else if 97 ≤ code ∧ code ≤ 122 then some (code - 71)
  else if 48 ≤ code ∧ code ≤ 57 then some (code + 4)
  else if code = 43 then some 62
  else if code = 47 then some 63
  else none

/-- Why embedded binary data cannot be read. -/
inductive Failure where
  /-- The data ends before its group is padded. -/
  | padding
  /-- A single character is left over, after this many data characters. -/
  | leftOver (count : Nat)
  deriving DecidableEq, Repr

/-- The wording of a failure. -/
def Failure.message : Failure → String
  | .padding => "Incorrect padding"
  | .leftOver count =>
    "Invalid base64-encoded string: number of data characters ("
      ++ String.ofList (decimal count) ++ ") cannot be 1 more than a multiple of 4"

/-- Reads on within a group: how many of its characters were read, the bits not yet in a byte,
how many padding characters stand at this place, and how many data characters came before. -/
def decodeFrom (place held pads count : Nat) : List Char → Except Failure Bytes
  | [] =>
    if place = 0 then .ok []
    else if place = 1 then .error (.leftOver count)
    else .error .padding
  | next :: rest =>
    if next = '=' then
      if 2 ≤ place ∧ 4 ≤ place + pads + 1 then .ok []
      else decodeFrom place held (if 2 ≤ place then pads + 1 else pads) count rest
    else
      match value next with
      | none => decodeFrom place held pads count rest
      | some bits =>
        if place = 0 then decodeFrom 1 bits 0 (count + 1) rest
        else if place = 1 then
          (decodeFrom 2 (bits % 16) 0 (count + 1) rest).map
            (UInt8.ofNat (held * 4 + bits / 16) :: ·)
        else if place = 2 then
          (decodeFrom 3 (bits % 4) 0 (count + 1) rest).map
            (UInt8.ofNat (held * 16 + bits / 4) :: ·)
        else
          (decodeFrom 0 0 0 (count + 1) rest).map (UInt8.ofNat (held * 64 + bits) :: ·)

/-- The bytes of embedded binary data, up to the padding that completes a group. -/
def decode (text : List Char) : Except Failure Bytes :=
  decodeFrom 0 0 0 0 text

end Multitarget.Text.Base64
