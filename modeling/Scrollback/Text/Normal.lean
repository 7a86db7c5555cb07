import Scrollback.Text.Combining
/-!
# Composed form

The same text can be written with letters and marks or with composites, and marks of different
classes in any order. In composed form all of these are written alike: the text is taken apart,
its marks are sorted by their classes, and what has a composite is put together.

## Main definitions

* `Text.decompose` — a text in parts.
* `Text.sortMarks` — marks in the order of their classes.
* `Text.compose` — parts put together.
* `Text.composed` — the composed form of a text.
-/

namespace Scrollback.Text

/-- The parts of a character, taken apart `depth` times at most. -/
def partsOf : (depth : Nat) → Char → List Char
  | 0, c => [c]
  | depth + 1, c =>
    match parts? c with
    | some (a, b) => partsOf depth a ++ [b]
    | none => [c]

/-- A text in parts. No character has more than four. -/
def decompose (cs : List Char) : List Char := cs.flatMap (partsOf 3)

/-- Puts a mark behind the marks of lower classes. -/
def insertMark (c : Char) : List Char → List Char
  | [] => [c]
  | d :: ds =>
    if combiningClass d ≠ 0 ∧ combiningClass d < combiningClass c then d :: insertMark c ds
    else c :: d :: ds

/-- Marks in the order of their classes; those of one class stay as they are. -/
def sortMarks : List Char → List Char
  | [] => []
  | c :: cs => insertMark c (sortMarks cs)

/-- Puts parts together with a character. The marks after it that found no composite come in
reverse, and a part gets past them if its class is higher than theirs. -/
def composeFrom (c : Char) (marks : List Char) : List Char → List Char
  | [] => c :: marks.reverse
  | d :: ds =>
    let open_ := marks.head?.all fun m => combiningClass m < combiningClass d
    match if open_ then composite? c d else none with
    | some e => composeFrom e marks ds
    | none =>
      if combiningClass d = 0 then c :: marks.reverse ++ composeFrom d [] ds
      else composeFrom c (d :: marks) ds

/-- Puts parts together. Marks at the front stay as they are. -/
def compose : List Char → List Char
  | [] => []
  | c :: cs => if combiningClass c = 0 then composeFrom c [] cs else c :: compose cs

/-- The composed form of a text. -/
def composed (cs : List Char) : List Char := compose (sortMarks (decompose cs))

end Scrollback.Text
