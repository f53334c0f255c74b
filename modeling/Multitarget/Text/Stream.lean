import Multitarget.Text.Lines
import Multitarget.Text.Utf8

/-!
# Texts that are read piece by piece

A reader that looks at the start of a long text does not learn what is wrong
further on. Bytes are decoded chunk by chunk and characters are handed out piece
by piece; bytes that are no text show when the piece that needs them is taken,
and their position counts from the chunk they are in.
-/

namespace Multitarget.Text

/-- The characters that can be had of a text, and why there are no more. -/
structure Stream where
  text : List Char
  cut : Option Utf8.Malformed

namespace Stream

/-- A piece has this many characters; the first one is twice as long. -/
def pieceLength : Nat := 4096

/-- A chunk has at least this many bytes. -/
def chunkLength : Nat := 8192

/-- The position that the piece of a character starts at. -/
def pieceStart (position : Nat) : Nat :=
  if position < 2 * pieceLength then 0 else position / pieceLength * pieceLength

/-- Bytes on their way to characters. -/
structure Decoder where
  /-- The bytes that no chunk was made of. -/
  bytes : Bytes
  /-- Bytes of a character that the last chunk cut off. -/
  held : Bytes
  /-- A carriage return that the last chunk ends with. -/
  carriage : Bool
  /-- Characters that no piece was made of. -/
  ready : List Char
  /-- The sizes of the last chunk and of its text. -/
  lastBytes : Nat
  lastCharacters : Nat

namespace Decoder

/-- The decoder before all bytes. -/
def start (bytes : Bytes) : Decoder := ⟨bytes, [], false, [], 0, 0⟩

/-- The size of the next chunk: what some characters need if they are like the last ones. -/
def nextLength (decoder : Decoder) (wanted : Nat) : Nat :=
  if decoder.lastCharacters = 0 then chunkLength
  else max chunkLength (wanted * decoder.lastBytes / decoder.lastCharacters)

/-- Decodes bytes up to a character that is cut off at their end, unless they are the last ones. -/
def decodePart (final : Bool) (bytes : Bytes) : Except Utf8.Malformed (List Char × Bytes) :=
  match Utf8.decode bytes with
  | .ok text => .ok (text, [])
  | .error failure =>
    if failure.reason = .cutOff ∧ ¬final then
      (Utf8.decode (bytes.take failure.position)).map fun text =>
        (text, bytes.drop failure.position)
    else .error failure

/-- Decodes one more chunk. A carriage return at its end waits for what follows. -/
def step (decoder : Decoder) (wanted : Nat) : Except Utf8.Malformed Decoder := do
  let chunk := decoder.bytes.take (decoder.nextLength wanted)
  let final := chunk.isEmpty
  let (decoded, held) ← decodePart final (decoder.held ++ chunk)
  let carriage := decoder.carriage && decoded.isEmpty && !final
  let written :=
    if decoder.carriage && (final || !decoded.isEmpty) then '\r' :: decoded else decoded
  let waits := !final && written.getLast? == some '\r'
  let text := universalLines (if waits then written.dropLast else written)
  return {
    bytes := decoder.bytes.drop chunk.length
    held
    carriage := carriage || waits
    ready := decoder.ready ++ text
    lastBytes := chunk.length
    lastCharacters := text.length }

/-- Decodes chunks until some characters are ready or all bytes are decoded. -/
def fill (wanted : Nat) : (fuel : Nat) → Decoder → Except Utf8.Malformed Decoder
  | 0, decoder => .ok decoder
  | fuel + 1, decoder =>
    if wanted ≤ decoder.ready.length then .ok decoder
    else
      match decoder.step (wanted - decoder.ready.length) with
      | .error failure => .error failure
      | .ok next =>
        if decoder.bytes.isEmpty && next.lastCharacters == 0 then .ok next
        else fill wanted fuel next

/-- Takes all pieces. -/
def pieces : (fuel : Nat) → Decoder → Stream
  | 0, _ => ⟨[], none⟩
  | fuel + 1, decoder =>
    match decoder.fill pieceLength (decoder.bytes.length + 3) with
    | .error failure => ⟨[], some failure⟩
    | .ok filled =>
      if filled.ready.length < pieceLength then ⟨filled.ready, none⟩
      else
        let rest := pieces fuel { filled with ready := filled.ready.drop pieceLength }
        ⟨filled.ready.take pieceLength ++ rest.text, rest.cut⟩

end Decoder

/-- The stream of some bytes, with all line ends made line feeds. -/
def ofBytes (bytes : Bytes) : Stream :=
  (Decoder.start bytes).pieces (bytes.length + 1)

end Stream

end Multitarget.Text
