/-!
# Lines

Line feeds end lines. A text read from a file first has its other line ends
turned into line feeds.
-/

namespace Multitarget.Text

/-- Each carriage return that a line feed follows is dropped. -/
def joinReturns : List Char → List Char
  | [] => []
  | '\r' :: '\n' :: rest => '\n' :: joinReturns rest
  | character :: rest => character :: joinReturns rest

/-- Each carriage return, alone or before a line feed, ends a line as one line feed. -/
def universalLines : List Char → List Char
  | [] => []
  | '\r' :: '\n' :: rest => '\n' :: universalLines rest
  | '\r' :: rest => '\n' :: universalLines rest
  | character :: rest => character :: universalLines rest

/-- The pieces between the separators: one more than there are separators. -/
def splitAt (separator : Char) : List Char → List (List Char)
  | [] => [[]]
  | character :: rest =>
    match splitAt separator rest with
    | [] => [[]]
    | piece :: pieces =>
      if character = separator then [] :: piece :: pieces
      else (character :: piece) :: pieces

/-- The lines of a text, without their line feeds. -/
def lines (text : List Char) : List (List Char) :=
  splitAt '\n' text

theorem splitAt_ne_nil (separator : Char) (text : List Char) : splitAt separator text ≠ [] := by
  cases text with
  | nil => simp [splitAt]
  | cons character rest =>
    simp only [splitAt]
    split
    · simp
    · split <;> simp

/-- The texts with a separator between neighbours. -/
def join (separator : List Char) : List (List Char) → List Char
  | [] => []
  | [piece] => piece
  | piece :: pieces => piece ++ separator ++ join separator pieces

end Multitarget.Text
