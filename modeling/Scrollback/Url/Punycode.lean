/-!
# Punycode

A label of a host name that has characters beyond ASCII travels as ASCII: its basic characters
first, then, after the last hyphen, numbers of variable length that tell which characters to
insert and where.

## Main definitions

* `Punycode.decode?` — the characters that an encoded label stands for.
-/

namespace Scrollback.Punycode

/-- Digits run from `a` for zero to `z`, then from `0`. -/
def base : Nat := 36

/-- The value of a digit. -/
def digit? (c : Char) : Option Nat :=
  if 'a' ≤ c ∧ c ≤ 'z' then some (c.toNat - 'a'.toNat)
  else if 'A' ≤ c ∧ c ≤ 'Z' then some (c.toNat - 'A'.toNat)
  else if '0' ≤ c ∧ c ≤ '9' then some (c.toNat - '0'.toNat + 26)
  else none

/-- Brings a difference down to the range where the bias is read off; counts the steps. -/
def scaleDown : (fuel : Nat) → (delta steps : Nat) → Nat × Nat
  | 0, delta, steps => (delta, steps)
  | fuel + 1, delta, steps =>
    if 455 < delta then scaleDown fuel (delta / 35) (steps + 1) else (delta, steps)

/-- The bias for the next number, after a difference among `count` characters. -/
def adapt (delta count : Nat) (first : Bool) : Nat :=
  let delta := if first then delta / 700 else delta / 2
  let (delta, steps) := scaleDown delta (delta + delta / count) 0
  steps * base + 36 * delta / (delta + 38)

/-- The threshold below which the digit at a place is the last of its number. -/
def threshold (place bias : Nat) : Nat :=
  if place ≤ bias + 1 then 1 else if bias + 26 ≤ place then 26 else place - bias

/-- A number of variable length, whose digits begin at a place and weigh `weight`. -/
def number? (bias : Nat) (place weight value : Nat) : List Char → Option (Nat × List Char)
  | [] => none
  | c :: rest => do
    let d ← digit? c
    let value := value + d * weight
    let t := threshold place bias
    if 0x100000000 ≤ value then none
    else if d < t then some (value, rest)
    else number? bias (place + base) (weight * (base - t)) value rest

/-- Inserts characters as the numbers tell. `point` is the code point to insert next and
`position` the place. A number takes a character at least, so there are no more numbers than
characters. -/
def insertAll : (fuel : Nat) → (bias point position : Nat) → (first : Bool) →
    List Char → List Char → Option (List Char)
  | 0, _, _, _, _, out, numbers => if numbers.isEmpty then some out else none
  | fuel + 1, bias, point, position, first, out, numbers =>
    if numbers.isEmpty then some out
    else do
      let (delta, rest) ← number? bias base 1 0 numbers
      let count := out.length + 1
      let total := position + delta
      let point := point + total / count
      let position := total % count
      if point < 0xD800 ∨ (0xE000 ≤ point ∧ point < 0x110000) then
        insertAll fuel (adapt delta count first) point (position + 1) false
          (out.take position ++ Char.ofNat point :: out.drop position) rest
      else none

/-- The basic characters in front of the last hyphen, and the numbers after it. -/
def splitBasic (cs : List Char) : List Char × List Char :=
  let tail := cs.reverse.takeWhile (· ≠ '-')
  if tail.length = cs.length then ([], cs)
  else (cs.take (cs.length - tail.length - 1), tail.reverse)

/-- The characters that an encoded label stands for. -/
def decode? (cs : List Char) : Option (List Char) :=
  let (basic, numbers) := splitBasic cs
  if basic.all (·.toNat < 0x80) then
    insertAll numbers.length 72 0x80 0 true basic numbers
  else none

end Scrollback.Punycode
