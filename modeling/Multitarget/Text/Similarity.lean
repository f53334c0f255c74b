/-!
# Similarity

How much two texts have in common: the longest block that both hold, and what the
parts before it and behind it have in common. Two texts are close if at least
three fifths of their characters lie in common blocks.
-/

namespace Multitarget.Text

/-- The length of the common start of two texts. -/
def commonStart : List Char → List Char → Nat
  | first :: rest, other :: others => if first = other then commonStart rest others + 1 else 0
  | _, _ => 0

/-- A block that two texts have in common: where it starts in either, and its length. -/
structure CommonBlock where
  first : Nat
  second : Nat
  length : Nat
  deriving DecidableEq, Repr

/-- The longest common block; of several the earliest in the first text, then in the second. -/
def longestBlock (first second : List Char) : CommonBlock :=
  let places := (List.range first.length).flatMap fun place =>
    (List.range second.length).map fun other => (place, other)
  places.foldl (fun best (place, other) =>
    let length := commonStart (first.drop place) (second.drop other)
    if best.length < length then ⟨place, other, length⟩ else best) ⟨0, 0, 0⟩

/-- The number of characters in common blocks; the first text is shorter than `fuel`. -/
def commonWithin : (fuel : Nat) → List Char → List Char → Nat
  | 0, _, _ => 0
  | fuel + 1, first, second =>
    let block := longestBlock first second
    if block.length = 0 then 0
    else
      commonWithin fuel (first.take block.first) (second.take block.second) + block.length +
        commonWithin fuel (first.drop (block.first + block.length))
          (second.drop (block.second + block.length))

/-- The number of characters in common blocks. -/
def common (first second : List Char) : Nat :=
  commonWithin (first.length + 1) first second

/-- A candidate with the number of its characters in common blocks, and of all characters of both
texts. -/
structure Likeness where
  candidate : String
  common : Nat
  total : Nat
  deriving Repr

namespace Likeness

/-- How a candidate compares with a text. -/
def of (text candidate : String) : Likeness :=
  ⟨candidate, Text.common candidate.toList text.toList, candidate.length + text.length⟩

/-- Whether the texts are close: `2 * common / total` is at least three fifths. -/
def isClose (likeness : Likeness) : Bool :=
  decide (3 * likeness.total ≤ 10 * likeness.common)

/-- Whether a candidate comes before another: the closer one, or else the later name. -/
def isBefore (first second : Likeness) : Bool :=
  let left := first.common * second.total
  let right := second.common * first.total
  decide (right < left) || (left == right && decide (second.candidate ≤ first.candidate))

end Likeness

/-- The candidates close to a text, the three closest at most, in the order of their names. -/
def closeMatches (text : String) (candidates : List String) : List String :=
  let close := (candidates.map (Likeness.of text)).filter Likeness.isClose
  let closest := ((close.mergeSort Likeness.isBefore).take 3).map Likeness.candidate
  closest.mergeSort fun first second => first ≤ second

end Multitarget.Text
