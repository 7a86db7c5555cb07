/-!
# Sets of characters

Properties of characters are given as sorted ranges of code points, written in hexadecimal with
blanks and line ends between them.

## Main definitions

* `Text.locate` — bisection among sorted ranges.
* `Text.CodeSet` — a set of code points.
* `Text.CodeMap` — numbers that go with code points.
-/

namespace Scrollback.Text

/-! ## Reading tables -/

/-- The value of a hexadecimal digit in lower case; other characters count as zero. -/
def hexOf (c : Char) : Nat :=
  if '0' ≤ c ∧ c ≤ '9' then c.toNat - '0'.toNat
  else if 'a' ≤ c ∧ c ≤ 'f' then c.toNat - 'a'.toNat + 10
  else 0

/-- The number that hexadecimal digits write. -/
def hexNumber (cs : List Char) : Nat := cs.foldl (fun n c => n * 16 + hexOf c) 0

/-- The numbers of a text between occurrences of a separator. -/
def hexNumbers (sep : Char) (cs : List Char) : List Nat :=
  (cs.splitOn sep).map hexNumber

/-- A range: two ends with a hyphen between them, or a single number. -/
def rangeOf (cs : List Char) : Nat × Nat :=
  match hexNumbers '-' cs with
  | [a, b] => (a, b)
  | [a] => (a, a)
  | _ => (1, 0)

/-- The words of a text, which stand in lines. -/
def wordsOf (s : String) : List (List Char) :=
  ((s.toList.map fun c => if c = '\n' then ' ' else c).splitOn ' ').filter (· ≠ [])

/-! ## Sets -/

/-- The place of the range that holds a number, among sorted ranges from `lo` on, before `hi`. -/
def locateFrom (ranges : Array (Nat × Nat)) (n : Nat) : (fuel lo hi : Nat) → Option Nat
  | 0, _, _ => none
  | fuel + 1, lo, hi =>
    if lo < hi then
      let mid := (lo + hi) / 2
      match ranges[mid]? with
      | none => none
      | some (a, b) =>
        if n < a then locateFrom ranges n fuel lo mid
        else if b < n then locateFrom ranges n fuel (mid + 1) hi
        else some mid
    else none

/-- The place of the range that holds a number, among sorted ranges. -/
def locate (ranges : Array (Nat × Nat)) (n : Nat) : Option Nat :=
  locateFrom ranges n (ranges.size + 1) 0 ranges.size

/-- A set of code points. -/
structure CodeSet where
  /-- Its ranges, with both ends, in ascending order. -/
  ranges : Array (Nat × Nat)

namespace CodeSet

/-- The set that a table writes. -/
def ofText (s : String) : CodeSet :=
  ⟨((wordsOf s).map rangeOf).toArray⟩

/-- How far into its range a number lies, if it lies in one. -/
def offset? (s : CodeSet) (n : Nat) : Option Nat := do
  let (a, _) ← s.ranges[← locate s.ranges n]?
  return n - a

/-- The number lies in one of the ranges. -/
def hasCode (s : CodeSet) (n : Nat) : Bool := (locate s.ranges n).isSome

/-- The character lies in one of the ranges. -/
def has (s : CodeSet) (c : Char) : Bool := s.hasCode c.toNat

end CodeSet

/-! ## Maps -/

/-- Numbers that go with code points. -/
structure CodeMap where
  /-- The ranges, with both ends, in ascending order. -/
  ranges : Array (Nat × Nat)
  /-- The numbers that go with each range. -/
  values : Array (List Nat)

namespace CodeMap

/-- The map that a table writes: behind each range an equals sign and its numbers, with plus signs
between them. -/
def ofText (s : String) : CodeMap :=
  let words := (wordsOf s).map fun w => (w.takeWhile (· ≠ '='), w.dropWhile (· ≠ '='))
  ⟨(words.map fun w => rangeOf w.1).toArray, (words.map fun w => hexNumbers '+' w.2.tail).toArray⟩

/-- The numbers that go with a code point, and how far into its range it lies. -/
def find? (m : CodeMap) (n : Nat) : Option (Nat × List Nat) := do
  let place ← locate m.ranges n
  return (n - (← m.ranges[place]?).1, ← m.values[place]?)

/-- The ranges with their numbers. -/
def entries (m : CodeMap) : Array ((Nat × Nat) × List Nat) := m.ranges.zip m.values

end CodeMap

end Scrollback.Text
