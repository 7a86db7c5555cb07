import Scrollback.Screen.Line
/-!
# Wrapping

A line that is too long is broken between words. The blanks at the break are dropped as far as
they would have fitted on the upper line; all other blanks are kept. A word that is longer than a
line is broken anywhere.

## Main definitions

* `Wrapping` — the state of breaking one line.
* `Wrapping.add` — one more glyph.
* `Glyph.wrap` — the lines that a line is broken into.
-/

namespace Scrollback

/-- The state of breaking one line. -/
structure Wrapping where
  /-- The lines that are finished, newest first. -/
  done : List (List Glyph) := []
  /-- The words and blanks that the present line is sure of. -/
  line : List Glyph := []
  /-- The blanks that may follow them. -/
  blanks : List Glyph := []
  /-- The word behind those blanks. -/
  word : List Glyph := []
  /-- The last glyph that was kept belongs to a word. -/
  inWord : Bool := false

namespace Wrapping

/-- The present line takes the blanks and the word. -/
def join (w : Wrapping) : Wrapping :=
  { w with line := w.line ++ w.blanks ++ w.word, blanks := [], word := [] }

/-- The columns of the present line with the blanks and the word. -/
def columns (w : Wrapping) : Nat :=
  Glyph.total w.line + Glyph.total w.blanks + Glyph.total w.word

/-- Drops the blanks at the front that fit into the columns that are left. -/
def dropBlanks : Nat → List Glyph → List Glyph
  | _, [] => []
  | room, g :: gs => if g.width ≤ room then dropBlanks (room - g.width) gs else g :: gs

/-- The present line is finished. -/
def finishLine (limit : Nat) (w : Wrapping) : Wrapping :=
  { w with
    done := w.line :: w.done
    line := []
    blanks := dropBlanks (limit - Glyph.total w.line) w.blanks }

/-- The glyph goes to the blanks or to the word. -/
def push (w : Wrapping) (g : Glyph) : Wrapping :=
  if g.isBlank then { w with blanks := w.blanks ++ [g], inWord := false }
  else { w with word := w.word ++ [g], inWord := true }

/-- The word is sure of its place: it is over, or it fills a line by itself. -/
def settles (limit : Nat) (w : Wrapping) (g : Glyph) : Bool :=
  (w.inWord && g.isBlank) ||
    (w.line.isEmpty && limit < Glyph.total w.word + Glyph.total w.blanks + g.width)

/-- The present line can take no more. -/
def isFull (limit : Nat) (w : Wrapping) (g : Glyph) : Bool :=
  limit ≤ Glyph.total w.line || (0 < g.width && limit ≤ w.columns)

/-- One more glyph. -/
def add (limit : Nat) (w : Wrapping) (g : Glyph) : Wrapping :=
  if limit < g.width then w
  else
    let w := if w.settles limit g then w.join else w
    if w.isFull limit g then
      let w := w.finishLine limit
      if g.isBlank && w.blanks.isEmpty then w else w.push g
    else w.push g

/-- The finished lines, after the last glyph. -/
def finish (w : Wrapping) : List (List Glyph) :=
  let last := w.join.line
  let done := if last.isEmpty then w.done else last :: w.done
  if done.isEmpty then [[]] else done.reverse

end Wrapping

/-- The lines that a line is broken into, for a width of so many columns; there is one at least. -/
def Glyph.wrap (limit : Nat) (gs : List Glyph) : List (List Glyph) :=
  (gs.foldl (Wrapping.add limit) {}).finish

end Scrollback
