/-!
# Blank characters, words and trimming

Blank characters are the white space of Unicode together with the four
information separators. A text falls into words at every run of them.
-/

namespace Multitarget.Text

/-- White space of every script. -/
def isWhiteSpace (character : Char) : Bool :=
  let code := character.toNat
  (0x09 ≤ code && code ≤ 0x0D) || code == 0x20 || code == 0x85 ||
  code == 0xA0 || code == 0x1680 || (0x2000 ≤ code && code ≤ 0x200A) ||
  code == 0x2028 || code == 0x2029 || code == 0x202F || code == 0x205F || code == 0x3000

/-- White space, and the information separators 1C to 1F. -/
def isBlank (character : Char) : Bool :=
  isWhiteSpace character || (0x1C ≤ character.toNat && character.toNat ≤ 0x1F)

/-- Adds a finished word to the words after it; an empty word is no word. -/
def consWord (word : List Char) (rest : List (List Char)) : List (List Char) :=
  if word.isEmpty then rest else word :: rest

/-- The word that a text starts with (empty if it starts blank) and the words after it. -/
def splitWords : List Char → List Char × List (List Char)
  | [] => ([], [])
  | character :: rest =>
    let (word, words) := splitWords rest
    if isBlank character then ([], consWord word words) else (character :: word, words)

/-- The maximal runs of characters that are not blank, in order. -/
def words (text : String) : List String :=
  let (word, rest) := splitWords text.toList
  (consWord word rest).map String.ofList

/-- The text without the characters at its end that satisfy the test. -/
def dropEndWhile (test : Char → Bool) (text : List Char) : List Char :=
  (text.reverse.dropWhile test).reverse

/-- The text without the characters at either end that satisfy the test. -/
def trimWhile (test : Char → Bool) (text : List Char) : List Char :=
  dropEndWhile test (text.dropWhile test)

end Multitarget.Text
