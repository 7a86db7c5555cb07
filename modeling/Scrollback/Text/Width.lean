import Scrollback.Text.CharWidth
import Scrollback.Text.Cluster
/-!
# Widths of clusters

A cluster mostly takes the columns of its characters. But signs widen or narrow what is before
them, pictures that are joined take the room of one, and letters are set into others. A cluster is
measured from its end, so that every character knows what follows it.

## Main definitions

* `Text.Follower` — what follows a character, as far as it matters.
* `Text.Measure.before` — the columns with one more character in front.
* `Text.clusterWidth` — the columns that a cluster takes.
* `Text.columns` — the columns that a text takes.
-/

namespace Scrollback.Text

/-- What follows a character, as far as the width depends on it. -/
inductive Follower where
  /-- Nothing that matters. -/
  | plain
  /-- The sign for pictures. -/
  | pictureSign
  /-- The sign for text. -/
  | textSign
  /-- The sign for wide quotation marks. -/
  | quoteSign
  /-- A skin tone. -/
  | tone
  /-- A picture. -/
  | picture
  /-- A joiner and a picture, and before them perhaps the sign for pictures. -/
  | joined (signed : Bool)
  /-- The same behind the frame of a key. -/
  | joinedKey (signed : Bool)
  /-- The same behind the end of a region's tags, so many letters and then so many digits. -/
  | joinedTags (letters digits : Nat)
  /-- A letter that can be written below another one. -/
  | subscript
  /-- A vowel that joins the one before it. -/
  | vowel
  /-- Two such vowels. -/
  | vowels
deriving DecidableEq, Repr

namespace Follower

/-- The sign for pictures follows. -/
def isSigned : Follower → Bool
  | .pictureSign | .joined true | .joinedKey true => true
  | _ => false

/-- What follows a character when the sign for pictures stands in front. -/
def sign : Follower → Follower
  | .joined _ => .joined true
  | .joinedKey _ => .joinedKey true
  | .subscript => .subscript
  | _ => .pictureSign

/-- A character by itself, as what follows another one. -/
def ofChar (c : Char) : Follower :=
  if isTone c then .tone
  else if isPicture c then .picture
  else if isSubscriptLetter c then .subscript
  else if c.toNat == 0x16D67 then .vowel
  else .plain

end Follower

/-- The columns from a character on, and how they begin. -/
structure Measure where
  columns : Nat := 0
  first : Follower := .plain
deriving DecidableEq, Repr

namespace Measure

/-- One more character in front takes so many columns, and matters so to what is before it. -/
def add (m : Measure) (columns : Nat) (first : Follower) : Measure :=
  ⟨m.columns + columns, first⟩

/-- Behind a joiner and a picture, parts of pictures take no room. -/
def joinedBefore? (letters digits : Nat) (c : Char) : Option Follower :=
  let n := c.toNat
  if digits = 0 ∧ letters < 6 ∧ 0xE0061 ≤ n ∧ n ≤ 0xE007A then some (.joinedTags (letters + 1) 0)
  else if (if digits = 0 then letters ≤ 4 else digits < 3) ∧ 0xE0030 ≤ n ∧ n ≤ 0xE0039 then
    some (.joinedTags letters (digits + 1))
  else if (if digits = 0 then 3 ≤ letters else digits = 3) ∧ n = 0x1F3F4 then some .picture
  else none

/-- How a character stands that takes no room because of what follows it, if it is one. -/
def absorbed? (c : Char) : Follower → Option Follower
  | .tone =>
    if c == '\u200d' then some (.joined false)
    else if takesTone c then some .picture
    else none
  | .picture => if c == '\u200d' then some (.joined false) else none
  | .joined false =>
    if c == '\u20e3' then some (.joinedKey false)
    else if isTone c then some .tone
    else if c.toNat == 0xE007F then some (.joinedTags 0 0)
    else if isPicture c then some .picture
    else none
  | .joinedTags letters digits => joinedBefore? letters digits c
  | .subscript => if c == '\u200d' || isInvisibleMark c then some .subscript else none
  | .vowel =>
    if c.toNat == 0x16D67 then some .vowels
    else if c.toNat == 0x16D63 || c.toNat == 0x16D69 then some .plain
    else none
  | .vowels => if c.toNat == 0x16D63 then some .plain else none
  | _ => none

/-- A character that no sign acts on, in front. The sign for subscripts also takes away the room
of its letter. -/
def unsigned (m : Measure) (c : Char) : Measure :=
  match absorbed? c m.first with
  | some f => m.add 0 f
  | none =>
    if m.first = .subscript ∧ c = '\u17d2' then ⟨m.columns - 1, .plain⟩
    else if m.first = .vowel ∧ c.toNat = 0x16D68 then m.add 1 .vowel
    else m.add (charWidth c) (.ofChar c)

/-- One more character in front. -/
def before (m : Measure) (c : Char) : Measure :=
  if m.first.isSigned && takesPictureSign c then
    m.add (if m.first = .pictureSign then 2 else 0) .picture
  else
    let m := if m.first.isSigned then { m with first := .plain } else m
    if c.toNat ≤ 0xA0 then m.add 1 .plain
    else if c = pictureSign then m.add 0 m.first.sign
    else if c = textSign ∧ m.first ≠ .subscript then m.add 0 .textSign
    else if c = quoteSign ∧ m.first ≠ .subscript then m.add 0 .quoteSign
    else
      match m.first with
      | .textSign =>
        if takesTextSign c then m.add 1 .plain else { m with first := .plain }.unsigned c
      | .quoteSign =>
        if isQuote c then m.add 2 .plain else { m with first := .plain }.unsigned c
      | _ => m.unsigned c

end Measure

/-- The columns that a cluster takes. A voicing mark of half the usual width takes one more than it
should. -/
def clusterWidth (cs : List Char) : Nat :=
  (cs.foldr (fun c m => m.before c) ({} : Measure)).columns + cs.countP isHalfMark

/-- The columns that clusters take side by side. -/
def clusterColumns : List (List Char) → Nat
  | [] => 0
  | c :: cs => clusterWidth c + clusterColumns cs

/-- The columns that a text takes. -/
def columns (cs : List Char) : Nat := clusterColumns (clusters cs)

end Scrollback.Text
