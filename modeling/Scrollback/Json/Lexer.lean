import Scrollback.Json.Basic
import Scrollback.Json.Number
/-!
# Tokens of a JSON text

## Main definitions

* `Json.scanString?`, `Json.scanNumber?` — the tokens that are longer than a character or a word.
* `Json.lex?` — all tokens of a text; none if some part of it is no token.
-/

namespace Scrollback.Json

/-! ## Strings -/

/-- The value of a hexadecimal digit. -/
def hexValue? (c : Char) : Option Nat :=
  if '0' ≤ c ∧ c ≤ '9' then some (c.toNat - '0'.toNat)
  else if 'a' ≤ c ∧ c ≤ 'f' then some (c.toNat - 'a'.toNat + 10)
  else if 'A' ≤ c ∧ c ≤ 'F' then some (c.toNat - 'A'.toNat + 10)
  else none

/-- The value of four hexadecimal digits. -/
def hexUnit? (a b c d : Char) : Option Nat := do
  let w ← hexValue? a
  let x ← hexValue? b
  let y ← hexValue? c
  let z ← hexValue? d
  return ((w * 16 + x) * 16 + y) * 16 + z

/-- The character that a letter after a backslash stands for. -/
def unescape? (c : Char) : Option Char :=
  if c = '"' ∨ c = '\\' ∨ c = '/' then some c
  else if c = 'b' then some (Char.ofNat 8)
  else if c = 'f' then some (Char.ofNat 12)
  else if c = 'n' then some '\n'
  else if c = 'r' then some '\r'
  else if c = 't' then some '\t'
  else none

/-- The rest of a string after its opening quote, and what follows the closing one. Numbers of
characters are given in units of 16 bits; one half of a pair alone is refused. -/
def scanString? : List Char → Option (List Char × List Char)
  | [] => none
  | '"' :: rest => some ([], rest)
  | '\\' :: 'u' :: a :: b :: c :: d :: rest => do
    let unit ← hexUnit? a b c d
    if 0xDC00 ≤ unit ∧ unit ≤ 0xDFFF then none
    else if 0xD800 ≤ unit ∧ unit ≤ 0xDBFF then
      match rest with
      | '\\' :: 'u' :: e :: f :: g :: h :: rest => do
        let low ← hexUnit? e f g h
        if 0xDC00 ≤ low ∧ low ≤ 0xDFFF then
          let (cs, rest) ← scanString? rest
          return (Char.ofNat (0x10000 + (unit - 0xD800) * 0x400 + (low - 0xDC00)) :: cs, rest)
        else none
      | _ => none
    else
      let (cs, rest) ← scanString? rest
      return (Char.ofNat unit :: cs, rest)
  | '\\' :: c :: rest => do
    let c ← unescape? c
    let (cs, rest) ← scanString? rest
    return (c :: cs, rest)
  | c :: rest =>
    if c = '\\' ∨ c.toNat < 32 then none
    else do
      let (cs, rest) ← scanString? rest
      return (c :: cs, rest)

/-! ## Numbers -/

/-- The digits at the front of a text, and the rest. -/
def digitRun (cs : List Char) : List Nat × List Char :=
  Text.takeDigits cs.length cs

/-- The digits before the point: a zero stands alone. -/
def scanWhole? : List Char → Option (List Nat × List Char)
  | '0' :: rest => some ([0], rest)
  | cs =>
    match digitRun cs with
    | ([], _) => none
    | r => some r

/-- The digits after a point, if there is one. -/
def scanFraction? : List Char → Option (Option (List Nat) × List Char)
  | '.' :: rest =>
    match digitRun rest with
    | ([], _) => none
    | (ds, rest) => some (some ds, rest)
  | cs => some (none, cs)

/-- The power of ten after an `e`, if there is one. -/
def scanExponent? : List Char → Option (Option Int × List Char)
  | c :: rest =>
    if c = 'e' ∨ c = 'E' then
      let (negative, rest) :=
        match rest with
        | '-' :: rest => (true, rest)
        | '+' :: rest => (false, rest)
        | _ => (false, rest)
      match digitRun rest with
      | ([], _) => none
      | (ds, rest) =>
        let n : Int := Text.ofDigits ds
        some (some (if negative then -n else n), rest)
    else some (none, c :: rest)
  | [] => some (none, [])

/-- A number at the front of a text, and the rest. -/
def scanNumber? (cs : List Char) : Option (Decimal × List Char) := do
  let (negative, rest) :=
    match cs with
    | '-' :: rest => (true, rest)
    | _ => (false, cs)
  let (whole, rest) ← scanWhole? rest
  let (fraction, rest) ← scanFraction? rest
  let (exponent, rest) ← scanExponent? rest
  return (⟨negative, whole, fraction, exponent⟩, rest)

/-- The token of a number that is in range; `lexeme` is the text it was read from. -/
def Decimal.token? (d : Decimal) (lexeme : List Char) : Option Token :=
  match d.natural? with
  | some n => some (.natural n)
  | none => if d.isFinite then some (.real lexeme) else none

/-! ## All tokens -/

/-- One token at the front of a text that does not begin with a blank, and the rest. -/
def scanToken? : List Char → Option (Token × List Char)
  | '[' :: rest => some (.openArray, rest)
  | ']' :: rest => some (.closeArray, rest)
  | '{' :: rest => some (.openObject, rest)
  | '}' :: rest => some (.closeObject, rest)
  | ',' :: rest => some (.comma, rest)
  | ':' :: rest => some (.colon, rest)
  | 'n' :: 'u' :: 'l' :: 'l' :: rest => some (.null, rest)
  | 't' :: 'r' :: 'u' :: 'e' :: rest => some (.bool true, rest)
  | 'f' :: 'a' :: 'l' :: 's' :: 'e' :: rest => some (.bool false, rest)
  | '"' :: rest => (scanString? rest).map fun (cs, rest) => (.string (String.ofList cs), rest)
  | cs => do
    let (d, rest) ← scanNumber? cs
    let token ← d.token? (cs.take (cs.length - rest.length))
    return (token, rest)

/-- The character may stand between tokens. -/
def isSpace (c : Char) : Bool :=
  c == ' ' || c == '\n' || c == '\t' || c == '\r'

/-- The tokens of a text, of which at most `fuel` are read. -/
def lexUpTo? : (fuel : Nat) → List Char → Option (List Token)
  | fuel, cs =>
    match cs.dropWhile isSpace with
    | [] => some []
    | c :: cs =>
      match fuel with
      | 0 => none
      | fuel + 1 => do
        let (token, rest) ← scanToken? (c :: cs)
        let tokens ← lexUpTo? fuel rest
        return token :: tokens

/-- The tokens of a text. A token takes a character at least, so there are no more tokens than
characters. -/
def lex? (cs : List Char) : Option (List Token) :=
  lexUpTo? cs.length cs

end Scrollback.Json
