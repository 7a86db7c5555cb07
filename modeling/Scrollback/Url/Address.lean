import Scrollback.Text.Decimal
import Scrollback.Url.Query
/-!
# Numeric host addresses

## Main definitions

* `Url.ipv4Number?` — a part of a dotted address: decimal, octal after `0`, hexadecimal
  after `0x`.
* `Url.endsInNumber` — a host whose last part is a number has to be a dotted address.
* `Url.ipv4?` — the value of a dotted address.
* `Url.isIpv6` — an address of eight groups, one run of which may be left out.
-/

namespace Scrollback.Url

/-- The value of a hexadecimal digit. -/
def hexDigit? (c : Char) : Option Nat :=
  if '0' ≤ c ∧ c ≤ '9' then some (c.toNat - '0'.toNat)
  else if 'a' ≤ c ∧ c ≤ 'f' then some (c.toNat - 'a'.toNat + 10)
  else if 'A' ≤ c ∧ c ≤ 'F' then some (c.toNat - 'A'.toNat + 10)
  else none

/-! ## Dotted addresses -/

/-- The number that digits of a base write. -/
def numberIn? (base : Nat) (cs : List Char) : Option Nat :=
  cs.foldlM (fun n c => do
    let d ← hexDigit? c
    if d < base then some (n * base + d) else none) 0

/-- The number that a part of a dotted address writes. -/
def ipv4Number? : List Char → Option Nat
  | [] => none
  | ['0'] => some 0
  | '0' :: 'x' :: cs => numberIn? 16 cs
  | '0' :: 'X' :: cs => numberIn? 16 cs
  | '0' :: cs => numberIn? 8 cs
  | cs => numberIn? 10 cs

/-- The parts of a host between its points, less an empty last one. -/
def hostParts (host : List Char) : List (List Char) :=
  let parts := splitOn '.' host
  if parts.getLast? = some [] then parts.dropLast else parts

/-- The last part of the host is a number. -/
def endsInNumber (host : List Char) : Bool :=
  match (hostParts host).getLast? with
  | none => false
  | some last =>
    (!last.isEmpty && last.all fun c => (Text.digit? c).isSome) || (ipv4Number? last).isSome

/-- The value of a dotted address: up to four parts, of which the last fills what is left. -/
def ipv4? (host : List Char) : Option Nat := do
  let parts := hostParts host
  let numbers ← parts.mapM ipv4Number?
  let last ← numbers.getLast?
  let front := numbers.dropLast
  if 3 < front.length ∨ front.any (255 < ·) ∨ Nat.pow 256 (4 - front.length) ≤ last then none
  else some (front.foldl (fun n d => n * 256 + d) 0 * Nat.pow 256 (4 - front.length) + last)

/-! ## Addresses of eight groups -/

/-- A decimal number up to 255 without needless zeros. -/
def isByteText (cs : List Char) : Bool :=
  !cs.isEmpty && cs.length ≤ 3 && cs.all (fun c => (Text.digit? c).isSome) &&
  (cs.length == 1 || cs.head? != some '0') && (numberIn? 10 cs).any (· ≤ 255)

/-- The dotted form that the last two groups may have. -/
def isDottedTail (cs : List Char) : Bool :=
  let parts := splitOn '.' cs
  parts.length == 4 && parts.all isByteText

/-- A group: one to four hexadecimal digits. -/
def isGroup (cs : List Char) : Bool :=
  1 ≤ cs.length && cs.length ≤ 4 && cs.all fun c => (hexDigit? c).isSome

/-- How many groups a list of texts writes, the last of which may be dotted if `dotted`. -/
def groupCount? (dotted : Bool) : List (List Char) → Option Nat
  | [] => some 0
  | [last] =>
    if isGroup last then some 1
    else if dotted && isDottedTail last then some 2
    else none
  | part :: rest => if isGroup part then (groupCount? dotted rest).map (· + 1) else none

/-- The texts between colons; there are none in an empty text. -/
def colonParts (cs : List Char) : List (List Char) :=
  if cs = [] then [] else splitOn ':' cs

/-- What stands before and after the first `::`. -/
def splitGap : List Char → Option (List Char × List Char)
  | [] => none
  | ':' :: ':' :: rest => some ([], rest)
  | c :: rest => (splitGap rest).map fun (a, b) => (c :: a, b)

/-- The text is an address of eight groups; `::` stands for one group left out or more. -/
def isIpv6 (cs : List Char) : Bool :=
  match splitGap cs with
  | some (front, back) =>
    match groupCount? false (colonParts front), groupCount? true (colonParts back) with
    | some m, some n => m + n ≤ 7
    | _, _ => false
  | none => groupCount? true (colonParts cs) == some 8

end Scrollback.Url
