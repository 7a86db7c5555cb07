import Scrollback.Count
import Scrollback.Text.Decimal
/-!
# Number range

A number in a JSON text is an integer of 64 bits when it can be, else it is read as a binary
floating-point number of 53 significant bits. Texts whose number would be infinite are refused.
The digits are gathered into a 64-bit significand first; digits that no longer fit only move the
decimal point.

## Main definitions

* `Json.roundBinary` — the nearest number with 53 significant bits, a tie going to even.
* `Json.Decimal` — the parts of a written number.
* `Json.Decimal.isFinite` — the number is in range.
-/

namespace Scrollback.Json

/-- The nearest number with at most 53 significant bits; a tie goes to the even neighbour. -/
def roundBinary (n : Nat) : Nat :=
  let shift := n.log2 - 52
  let quotient := n >>> shift
  let rest := n - quotient <<< shift
  let half := 1 <<< (shift - 1)
  if shift = 0 then n
  else if half < rest ∨ (rest = half ∧ quotient % 2 = 1) then (quotient + 1) <<< shift
  else quotient <<< shift

/-- The parts of a written number. -/
structure Decimal where
  /-- A minus stands in front. -/
  negative : Bool
  /-- The digits before the point. -/
  whole : List Nat
  /-- The digits after the point, if there is one. -/
  fraction : Option (List Nat)
  /-- The power of ten, if one is given. -/
  exponent : Option Int

namespace Decimal

/-- Gathers digits while the significand fits in 64 bits; counts the digits taken. -/
def gather (significand taken : Nat) : List Nat → Nat × Nat
  | [] => (significand, taken)
  | d :: ds =>
    if significand * 10 + d < Count.bound then gather (significand * 10 + d) (taken + 1) ds
    else (significand, taken)

/-- The significand and the power of ten that it is multiplied by. -/
def scaled (d : Decimal) : Nat × Int :=
  let (significand, taken) := gather 0 0 d.whole
  let (significand, places) := gather significand 0 (d.fraction.getD [])
  (significand, ((d.whole.length - taken : Nat) : Int) - places + d.exponent.getD 0)

/-- The number is in the range of floating-point numbers. -/
def isFinite (d : Decimal) : Bool :=
  let (significand, power) := d.scaled
  significand == 0 || power < 0 ||
    (power ≤ 308 &&
      roundBinary (roundBinary significand * roundBinary (Nat.pow 10 power.toNat)) < Nat.pow 2 1024)

/-- The number as an unsigned 64-bit integer, if it is written as one. -/
def natural? (d : Decimal) : Option Nat :=
  if d.negative ∨ d.fraction.isSome ∨ d.exponent.isSome then none
  else
    let n := Text.ofDigits d.whole
    if n < Count.bound then some n else none

end Decimal

end Scrollback.Json
