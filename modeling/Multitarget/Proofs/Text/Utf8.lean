import Multitarget.Text.Utf8

/-!
# Decoding UTF-8

Decoding undoes encoding, and decodes nothing but encodings. Each form of a character, of one to
four bytes, is decoded to the code point that it was made of, and a form that is decoded is that of
its code point: the ranges of lead and second bytes leave one form for every character.
-/

namespace Multitarget.Text.Utf8

variable {position : Nat} {rest bytes : Bytes} {text : List Char}

/-! ## Code points -/

theorem valid_toNat (character : Char) :
    character.toNat < 0xD800 ∨ 0xDFFF < character.toNat ∧ character.toNat < 0x110000 :=
  character.valid

theorem toNat_ofNat_of_valid {code : Nat}
    (valid : code < 0xD800 ∨ 0xDFFF < code ∧ code < 0x110000) : (Char.ofNat code).toNat = code := by
  rw [Char.ofNat, dif_pos valid]
  rfl

theorem toNat_byte {code : Nat} (small : code < 256) : (UInt8.ofNat code).toNat = code := by
  rw [UInt8.toNat_ofNat']
  omega

theorem ofNat_eq (byte : UInt8) {code : Nat} (same : code = byte.toNat) :
    UInt8.ofNat code = byte := by
  rw [same, UInt8.ofNat_toNat]

theorem isContinuation_iff {byte : Nat} :
    isContinuation byte = true ↔ 0x80 ≤ byte ∧ byte ≤ 0xBF := by
  simp [isContinuation]

/-! ## Decoding what was encoded -/

theorem isContinuation_tail (bits : Nat) : isContinuation (0x80 + bits % 64) = true := by
  rw [isContinuation_iff]
  omega

/-- The byte behind a lead byte lies in the range that the lead byte allows. -/
theorem isSecond_three {code : Nat} (least : 0x800 ≤ code) (most : code < 0x10000)
    (valid : code < 0xD800 ∨ 0xDFFF < code) :
    isSecond (0xE0 + code / 4096) (0x80 + code / 64 % 64) = true := by
  simp only [isSecond, secondByte, Bool.and_eq_true]
  grind

theorem isSecond_four {code : Nat} (least : 0x10000 ≤ code) (most : code < 0x110000) :
    isSecond (0xF0 + code / 262144) (0x80 + code / 4096 % 64) = true := by
  simp only [isSecond, secondByte, Bool.and_eq_true]
  grind

theorem decodeFrom_encodeChar (character : Char) (rest : Bytes) (position : Nat) :
    decodeFrom position (encodeChar character ++ rest) =
      (decodeFrom (position + (encodeChar character).length) rest).map (character :: ·) := by
  have valid := valid_toNat character
  have back : Char.ofNat character.toNat = character := Char.ofNat_toNat character
  generalize code_eq : character.toNat = code at valid back
  have tail (bits : Nat) : (UInt8.ofNat (0x80 + bits % 64)).toNat = 0x80 + bits % 64 :=
    toNat_byte (by omega)
  simp only [encodeChar, code_eq]
  split
  next one =>
    rw [List.singleton_append, decodeFrom.eq_def]
    simp only [toNat_byte (by omega : code < 256), if_pos one, back, List.length_singleton]
  next =>
  split
  next two =>
    have lead : (UInt8.ofNat (0xC0 + code / 64)).toNat = 0xC0 + code / 64 := toNat_byte (by omega)
    have whole : (0xC0 + code / 64) % 32 * 64 + (0x80 + code % 64) % 64 = code := by omega
    rw [List.cons_append, List.singleton_append, decodeFrom.eq_def]
    simp only [lead, tail, isContinuation_tail, whole, back, if_true, List.length_cons]
    rw [if_neg (by omega), if_neg (by omega), if_pos (by omega)]
    rfl
  next =>
  split
  next three =>
    have lead : (UInt8.ofNat (0xE0 + code / 4096)).toNat = 0xE0 + code / 4096 :=
      toNat_byte (by omega)
    have whole : (0xE0 + code / 4096) % 16 * 4096 + (0x80 + code / 64 % 64) % 64 * 64 +
        (0x80 + code % 64) % 64 = code := by omega
    have allowed := @isSecond_three code (by omega) three (by omega)
    rw [List.cons_append, List.cons_append, List.singleton_append, decodeFrom.eq_def]
    simp only [lead, tail, isContinuation_tail, allowed, whole, back, if_true, List.length_cons]
    rw [if_neg (by omega), if_neg (by omega), if_neg (by omega), if_pos (by omega)]
    rfl
  next =>
    have lead : (UInt8.ofNat (0xF0 + code / 262144)).toNat = 0xF0 + code / 262144 :=
      toNat_byte (by omega)
    have whole : (0xF0 + code / 262144) % 8 * 262144 + (0x80 + code / 4096 % 64) % 64 * 4096 +
        (0x80 + code / 64 % 64) % 64 * 64 + (0x80 + code % 64) % 64 = code := by omega
    have allowed := @isSecond_four code (by omega) (by omega)
    rw [List.cons_append, List.cons_append, List.cons_append, List.singleton_append,
      decodeFrom.eq_def]
    simp only [lead, tail, isContinuation_tail, allowed, whole, back, if_true, List.length_cons]
    rw [if_neg (by omega), if_neg (by omega), if_neg (by omega), if_neg (by omega),
      if_pos (by omega)]
    rfl

theorem decodeFrom_encodeChars (text : List Char) (position : Nat) :
    decodeFrom position (encodeChars text) = .ok text := by
  induction text generalizing position with
  | nil => rw [encodeChars, List.flatMap_nil, decodeFrom]
  | cons character rest ih =>
      rw [encodeChars, List.flatMap_cons, ← encodeChars, decodeFrom_encodeChar, ih]
      rfl

/-! ## Encoding what was decoded -/

theorem exists_of_map {decoded : Except Malformed (List Char)} {character : Char}
    (ended : decoded.map (character :: ·) = .ok text) :
    ∃ rest, decoded = .ok rest ∧ text = character :: rest := by
  cases decoded with
  | error failure => cases ended
  | ok rest => exact ⟨rest, rfl, (Except.ok.inj ended).symm⟩

theorem encodeChar_ofNat {code : Nat}
    (valid : code < 0xD800 ∨ 0xDFFF < code ∧ code < 0x110000) :
    encodeChar (Char.ofNat code) =
      let tail (bits : Nat) : UInt8 := .ofNat (0x80 + bits % 64)
      if code < 0x80 then [.ofNat code]
      else if code < 0x800 then [.ofNat (0xC0 + code / 64), tail code]
      else if code < 0x10000 then [.ofNat (0xE0 + code / 4096), tail (code / 64), tail code]
      else [.ofNat (0xF0 + code / 262144), tail (code / 4096), tail (code / 64), tail code] := by
  rw [encodeChar, toNat_ofNat_of_valid valid]

theorem encodeChar_one {first : UInt8} (one : first.toNat < 0x80) :
    encodeChar (Char.ofNat first.toNat) = [first] := by
  rw [encodeChar_ofNat (by omega)]
  simp only
  rw [if_pos (by omega), ofNat_eq first rfl]

theorem encodeChar_two {first second : UInt8} (least : ¬first.toNat < 0xC2)
    (most : first.toNat < 0xE0) (continues : isContinuation second.toNat = true) :
    encodeChar (Char.ofNat (first.toNat % 32 * 64 + second.toNat % 64)) = [first, second] := by
  rw [isContinuation_iff] at continues
  rw [encodeChar_ofNat (by omega)]
  simp only
  rw [if_neg (by omega), if_pos (by omega), ofNat_eq first (by omega), ofNat_eq second (by omega)]

theorem encodeChar_three {first second third : UInt8} (least : ¬first.toNat < 0xE0)
    (most : first.toNat < 0xF0) (allowed : isSecond first.toNat second.toNat = true)
    (continues : isContinuation third.toNat = true) :
    encodeChar (Char.ofNat (first.toNat % 16 * 4096 + second.toNat % 64 * 64 +
      third.toNat % 64)) = [first, second, third] := by
  rw [isContinuation_iff] at continues
  have second_le : 0x80 ≤ second.toNat ∧ second.toNat ≤ 0xBF ∧
      (first.toNat = 0xE0 → 0xA0 ≤ second.toNat) ∧ (first.toNat = 0xED → second.toNat ≤ 0x9F) := by
    simp only [isSecond, secondByte, Bool.and_eq_true] at allowed
    grind
  rw [encodeChar_ofNat (by omega)]
  simp only
  rw [if_neg (by omega), if_neg (by omega), if_pos (by omega),
    ofNat_eq first (by omega), ofNat_eq second (by omega), ofNat_eq third (by omega)]

theorem encodeChar_four {first second third fourth : UInt8} (least : ¬first.toNat < 0xF0)
    (most : first.toNat < 0xF5) (allowed : isSecond first.toNat second.toNat = true)
    (continues : isContinuation third.toNat = true)
    (continuesToo : isContinuation fourth.toNat = true) :
    encodeChar (Char.ofNat (first.toNat % 8 * 262144 + second.toNat % 64 * 4096 +
      third.toNat % 64 * 64 + fourth.toNat % 64)) = [first, second, third, fourth] := by
  rw [isContinuation_iff] at continues continuesToo
  have second_le : 0x80 ≤ second.toNat ∧ second.toNat ≤ 0xBF ∧
      (first.toNat = 0xF0 → 0x90 ≤ second.toNat) ∧ (first.toNat = 0xF4 → second.toNat ≤ 0x8F) := by
    simp only [isSecond, secondByte, Bool.and_eq_true] at allowed
    grind
  rw [encodeChar_ofNat (by omega)]
  simp only
  rw [if_neg (by omega), if_neg (by omega), if_neg (by omega),
    ofNat_eq first (by omega), ofNat_eq second (by omega), ofNat_eq third (by omega),
    ofNat_eq fourth (by omega)]

theorem encodeChars_cons {character : Char} {shape : Bytes} (encoded : encodeChar character = shape)
    (behind : encodeChars text = rest) : encodeChars (character :: text) = shape ++ rest := by
  rw [encodeChars, List.flatMap_cons, encoded, ← encodeChars, behind]

/-- Bytes that are decoded are the encoding of what they are decoded to. -/
theorem encodeChars_of_decodeFrom (decoded : decodeFrom position bytes = .ok text) :
    encodeChars text = bytes := by
  fun_induction decodeFrom position bytes generalizing text
  case case1 =>
    cases decoded
    rfl
  case case2 one ih =>
    obtain ⟨others, behind, rfl⟩ := exists_of_map decoded
    exact encodeChars_cons (encodeChar_one one) (ih behind)
  case case5 least most second rest continues ih =>
    obtain ⟨others, behind, rfl⟩ := exists_of_map decoded
    exact encodeChars_cons (encodeChar_two least most continues) (ih behind)
  case case9 least most second allowed third rest continues ih =>
    obtain ⟨others, behind, rfl⟩ := exists_of_map decoded
    exact encodeChars_cons (encodeChar_three least most allowed continues) (ih behind)
  case case15 least most second allowed third continues fourth rest continuesToo ih =>
    obtain ⟨others, behind, rfl⟩ := exists_of_map decoded
    exact encodeChars_cons (encodeChar_four least most allowed continues continuesToo) (ih behind)
  -- In all other cases decoding fails.
  all_goals cases decoded

/-- Decoding undoes encoding, and decodes nothing else. -/
theorem decode_eq_ok_iff : decode bytes = .ok text ↔ encodeChars text = bytes := by
  constructor
  · exact encodeChars_of_decodeFrom
  · rintro rfl
    exact decodeFrom_encodeChars text 0

/-- Bytes cannot be decoded exactly if they are the encoding of no text. -/
theorem exists_malformed_iff :
    (∃ failure, decode bytes = .error failure) ↔ ∀ text, encodeChars text ≠ bytes := by
  constructor
  · rintro ⟨failure, unread⟩ text encoded
    rw [decode_eq_ok_iff.mpr encoded] at unread
    cases unread
  · intro foreign
    cases read : decode bytes with
    | error failure => exact ⟨failure, rfl⟩
    | ok text => exact absurd (decode_eq_ok_iff.mp read) (foreign text)

end Multitarget.Text.Utf8
