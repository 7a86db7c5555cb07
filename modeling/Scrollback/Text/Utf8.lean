/-!
# UTF-8

Text as bytes and back. Reading never fails: what is no text becomes replacement characters, one
for each longest piece that could have begun a character.

## Main definitions

* `Text.utf8Bytes` — the bytes of a text.
* `Text.ofUtf8Lossy` — the text of bytes.
-/

namespace Scrollback.Text

/-- The bytes of a text. -/
def utf8Bytes (cs : List Char) : List UInt8 :=
  cs.flatMap String.utf8EncodeChar

/-- The character that stands for bytes that are no text. -/
def replacement : Char := '\uFFFD'

/-- A byte that continues a character, between two bounds. -/
def within (lo hi b : UInt8) : Bool := lo ≤ b && b ≤ hi

/-- The bits that a continuing byte adds. -/
def continued (n : Nat) (b : UInt8) : Nat := n * 64 + b.toNat % 64

/-- The bounds of the byte after the first byte of a three-byte character. -/
def secondOfThree (b : UInt8) : UInt8 × UInt8 :=
  if b = 0xE0 then (0xA0, 0xBF) else if b = 0xED then (0x80, 0x9F) else (0x80, 0xBF)

/-- The bounds of the byte after the first byte of a four-byte character. -/
def secondOfFour (b : UInt8) : UInt8 × UInt8 :=
  if b = 0xF0 then (0x90, 0xBF) else if b = 0xF4 then (0x80, 0x8F) else (0x80, 0xBF)

/-- The text of bytes, with replacement characters where they are no text. -/
def ofUtf8Lossy : List UInt8 → List Char
  | [] => []
  | a :: rest =>
    if a < 0x80 then Char.ofNat a.toNat :: ofUtf8Lossy rest
    else if within 0xC2 0xDF a then
      match rest with
      | b :: rest =>
        if within 0x80 0xBF b then
          Char.ofNat (continued (a.toNat % 32) b) :: ofUtf8Lossy rest
        else replacement :: ofUtf8Lossy (b :: rest)
      | [] => [replacement]
    else if within 0xE0 0xEF a then
      match rest with
      | b :: rest =>
        if within (secondOfThree a).1 (secondOfThree a).2 b then
          match rest with
          | c :: rest =>
            if within 0x80 0xBF c then
              Char.ofNat (continued (continued (a.toNat % 16) b) c) :: ofUtf8Lossy rest
            else replacement :: ofUtf8Lossy (c :: rest)
          | [] => [replacement]
        else replacement :: ofUtf8Lossy (b :: rest)
      | [] => [replacement]
    else if within 0xF0 0xF4 a then
      match rest with
      | b :: rest =>
        if within (secondOfFour a).1 (secondOfFour a).2 b then
          match rest with
          | c :: rest =>
            if within 0x80 0xBF c then
              match rest with
              | d :: rest =>
                if within 0x80 0xBF d then
                  Char.ofNat (continued (continued (continued (a.toNat % 8) b) c) d) ::
                    ofUtf8Lossy rest
                else replacement :: ofUtf8Lossy (d :: rest)
              | [] => [replacement]
            else replacement :: ofUtf8Lossy (c :: rest)
          | [] => [replacement]
        else replacement :: ofUtf8Lossy (b :: rest)
      | [] => [replacement]
    else replacement :: ofUtf8Lossy rest

end Scrollback.Text
