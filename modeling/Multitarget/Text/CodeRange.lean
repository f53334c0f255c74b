/-!
# Sets of characters given by ranges

A character class that a standard lists as a table is written here as a list
of inclusive ranges of code points, and asked with `covers`.
-/

namespace Multitarget.Text

/-- An inclusive range of code points. -/
structure CodeRange where
  /-- The first code point of the range. -/
  first : Nat
  /-- The last code point of the range. -/
  last : Nat
  deriving DecidableEq, Repr

namespace CodeRange

/-- Whether a code point lies in the range. -/
def contains (range : CodeRange) (code : Nat) : Bool :=
  decide (range.first ≤ code) && decide (code ≤ range.last)

theorem contains_iff (range : CodeRange) (code : Nat) :
    range.contains code = true ↔ range.first ≤ code ∧ code ≤ range.last := by
  simp [contains]

end CodeRange

/-- Whether some range of the table holds the character. -/
def covers (table : List CodeRange) (character : Char) : Bool :=
  table.any fun range => range.contains character.toNat

@[simp] theorem covers_nil (character : Char) : covers [] character = false := rfl

@[simp] theorem covers_cons (range : CodeRange) (table : List CodeRange) (character : Char) :
    covers (range :: table) character =
      (range.contains character.toNat || covers table character) := rfl

end Multitarget.Text
