import Scrollback.Text.Normal
import Scrollback.Url.HostChar
import Scrollback.Url.HostSpelling
import Scrollback.Url.Punycode
import Scrollback.Url.Query
/-!
# Host names

A host name is a list of labels joined by points. Characters beyond ASCII are allowed within
limits: they are mapped to a common form, and every label has to be one that can be shown without
being mistaken for another. Labels that begin with `xn--` hold such characters in encoded form.

## Main definitions

* `HostName.map?` — the mapped form of a name, unless it has a character that is refused.
* `HostName.shownLabel?` — the characters of a label, which may be encoded.
* `HostName.isLabel` — a label satisfies the rules for labels by themselves.
* `HostName.isBidiLabel` — a label of a name with letters from right to left runs one way.
* `HostName.normalize?` — the form of a name in which it may be compared.
-/

namespace Scrollback.HostName

open HostChar Url

/-! ## Mapping -/

/-- The mapped form of a character; none if it is refused. -/
def mapChar? (c : Char) : Option (List Char) :=
  if c.toNat < 0x80 then some [c.toLower]
  else if HostSpelling.refused.has c then none
  else if HostSpelling.ignored.has c then some []
  else some ((HostSpelling.spelled? c).getD [c])

/-- The mapped form of a name, in composed form; none if one of its characters is refused. -/
def map? (cs : List Char) : Option (List Char) :=
  (cs.mapM mapChar?).map fun parts => Text.composed parts.flatten

/-- The character stands in a name as it is. -/
def isMapped (c : Char) : Bool := mapChar? c == some [c]

/-! ## Labels -/

/-- Going away from the joiner, the first character that is not transparent is in a class. -/
def meets (classes : Char → Bool) (cs : List Char) : Bool :=
  ((cs.dropWhile transparent.has).head?).any classes

/-- Joiners stand where they have an effect: after a virama, or, for the one that keeps
characters apart, between two that would join. `before` is what stands in front, last first. -/
def joinersFit (before : List Char) : List Char → Bool
  | [] => true
  | c :: rest =>
    let afterVirama := before.head?.any isVirama
    let fits :=
      if c = '\u200D' then afterVirama
      else if c = '\u200C' then
        afterVirama ||
          (meets (fun d => joinsLeft.has d || joinsBoth.has d) before &&
            meets (fun d => joinsRight.has d || joinsBoth.has d) rest)
      else true
    fits && joinersFit (c :: before) rest

/-- The label does not begin with a mark, and its joiners have an effect. -/
def isLabel (cs : List Char) : Bool :=
  !cs.head?.any mark.has && joinersFit [] cs

/-- The label begins with the mark of an encoded one. -/
def encodedTail? : List Char → Option (List Char)
  | 'x' :: 'n' :: '-' :: '-' :: rest => some rest
  | _ => none

/-- The label has characters beyond ASCII. -/
def goesBeyondAscii (cs : List Char) : Bool := cs.any (0x80 ≤ ·.toNat)

/-- How many characters the tail of an encoded label may have. -/
def tailLimit : Nat := 2000

/-- How many characters a label may have that has to be encoded. -/
def labelLimit : Nat := 1000

/-- The characters of a label. An encoded label has to hold characters beyond ASCII, in composed
form, and only ones that stand as they are. -/
def shownLabel? (label : List Char) : Option (List Char) :=
  match encodedTail? label with
  | none => if goesBeyondAscii label && labelLimit < label.length then none else some label
  | some tail => do
    let shown ← if tail.length ≤ tailLimit then Punycode.decode? tail else none
    if shown.all isMapped && goesBeyondAscii shown && Text.composed shown == shown then some shown
    else none

/-! ## Direction -/

/-- The character runs from left to right: it is in no other class of direction. -/
def isLeftToRight (c : Char) : Bool :=
  !(rightToLeft.has c || arabicNumber.has c || europeanNumber.has c || neutral.has c ||
    nonspacing.has c || undirected.has c)

/-- The label has letters or digits that run from right to left. -/
def hasRightToLeft (cs : List Char) : Bool :=
  cs.any fun c => rightToLeft.has c || arabicNumber.has c

/-- A label runs one way: it begins with a letter, holds no letter of the other direction, ends
in a letter or digit of its own, and does not mix the two kinds of digits. -/
def isBidiLabel (cs : List Char) : Bool :=
  let last := (cs.reverse.dropWhile nonspacing.has).head?
  match cs.head? with
  | none => true
  | some first =>
    if rightToLeft.has first then
      (cs.all fun c => rightToLeft.has c || arabicNumber.has c || europeanNumber.has c ||
        neutral.has c || nonspacing.has c) &&
      (last.any fun c => rightToLeft.has c || europeanNumber.has c || arabicNumber.has c) &&
      !(cs.any europeanNumber.has && cs.any arabicNumber.has)
    else if isLeftToRight first then
      (cs.all fun c => isLeftToRight c || europeanNumber.has c || neutral.has c ||
        nonspacing.has c) &&
      (last.any fun c => isLeftToRight c || europeanNumber.has c)
    else false

/-! ## Names -/

/-- ASCII characters that no host name may have. -/
def isForbidden (c : Char) : Bool :=
  c.toNat ≤ 0x20 || c.toNat == 0x7F ||
  c ∈ ['%', '#', '/', ':', '<', '>', '?', '@', '[', '\\', ']', '^', '|']

/-- The form of a name in which it may be compared: mapped, with the labels shown. There is none
if the name breaks a rule. -/
def normalize? (name : List Char) : Option (List Char) := do
  let mapped ← map? name
  let shown ← (splitOn '.' mapped).mapM shownLabel?
  let bidi := shown.any hasRightToLeft
  if mapped.any isForbidden then none
  else if shown.all (fun l => isLabel l && (!bidi || isBidiLabel l)) then
    some ((shown.intersperse ['.']).flatten)
  else none

end Scrollback.HostName
