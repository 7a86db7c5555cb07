import Scrollback.Text.Utf8
/-!
# Percent encoding

Bytes that may not stand for themselves are written as `%` and two hexadecimal digits.

## Main definitions

* `Url.percentEncode` — a text with some of its characters encoded.
* `Url.percentDecode` — the bytes that an encoded text stands for.
-/

namespace Scrollback.Url

/-- A hexadecimal digit, in upper case. -/
def upperHex (n : Nat) : Char :=
  if n < 10 then Char.ofNat ('0'.toNat + n) else Char.ofNat ('A'.toNat + (n - 10))

/-- The value of a hexadecimal digit given as a byte. -/
def hexByte? (b : UInt8) : Option UInt8 :=
  if 48 ≤ b && b ≤ 57 then some (b - 48)
  else if 65 ≤ b && b ≤ 70 then some (b - 55)
  else if 97 ≤ b && b ≤ 102 then some (b - 87)
  else none

/-- A byte as `%` and two digits. -/
def encodeByte (b : UInt8) : List Char :=
  ['%', upperHex (b.toNat / 16), upperHex (b.toNat % 16)]

/-- A text in which the characters of a class, and all beyond ASCII, are encoded. -/
def percentEncode (encoded : Char → Bool) (cs : List Char) : List Char :=
  cs.flatMap fun c =>
    if encoded c || 0x80 ≤ c.toNat then (String.utf8EncodeChar c).flatMap encodeByte else [c]

/-- The bytes an encoded text stands for; a `%` without two digits after it stands for itself. -/
def percentDecode : List UInt8 → List UInt8
  | [] => []
  | 37 :: a :: b :: rest =>
    match hexByte? a, hexByte? b with
    | some x, some y => (x * 16 + y) :: percentDecode rest
    | _, _ => 37 :: percentDecode (a :: b :: rest)
  | a :: rest => a :: percentDecode rest

/-- The characters that are encoded within one segment of a path. -/
def isEncodedInSegment (c : Char) : Bool :=
  c.toNat ≤ 0x20 || c.toNat == 0x7F ||
  c ∈ ['"', '#', '<', '>', '?', '`', '\x7b', '\x7d', '/', '%']

end Scrollback.Url
