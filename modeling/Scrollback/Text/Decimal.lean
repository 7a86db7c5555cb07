/-!
# Decimal text

Numbers written in decimal digits, with leading zeros where a format asks for a fixed width.

## Main definitions

* `Text.padded` — a number in at least a given count of digits.
* `Text.takeDigits` — the digits a text begins with, up to a limit, and the rest.
-/

namespace Scrollback.Text

/-- The decimal digits of a number. -/
def digits (n : Nat) : List Char :=
  Nat.toDigits 10 n

/-- The decimal digits of a number, filled up with zeros in front to a width. -/
def padded (width n : Nat) : List Char :=
  List.replicate (width - (digits n).length) '0' ++ digits n

/-- The digit's value. -/
def digit? (c : Char) : Option Nat :=
  if '0' ≤ c ∧ c ≤ '9' then some (c.toNat - '0'.toNat) else none

/-- The digits at the front of a text, at most `limit` of them, and what follows. -/
def takeDigits : (limit : Nat) → List Char → List Nat × List Char
  | 0, cs => ([], cs)
  | _ + 1, [] => ([], [])
  | n + 1, c :: cs =>
    match digit? c with
    | none => ([], c :: cs)
    | some d => let (ds, rest) := takeDigits n cs; (d :: ds, rest)

/-- The number that a list of digits writes. -/
def ofDigits (ds : List Nat) : Nat :=
  ds.foldl (fun n d => n * 10 + d) 0

/-- The number at the front of a text, of one to `limit` digits, and what follows. -/
def number? (limit : Nat) (cs : List Char) : Option (Nat × List Char) :=
  match takeDigits limit cs with
  | ([], _) => none
  | (ds, rest) => some (ofDigits ds, rest)

end Scrollback.Text
