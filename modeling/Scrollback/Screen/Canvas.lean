import Scrollback.Count
import Scrollback.Screen.Line
/-!
# The canvas

A frame is drawn by placing glyphs in rows of columns. A wide glyph covers the places after it, and
what was placed there is not seen.

## Main definitions

* `Placed`, `Glyph.placeAt` — glyphs and the columns they stand in.
* `Canvas` — the rows of a frame.
* `Canvas.check` — every glyph begins inside.
* `Canvas.cells`, `Canvas.lines` — what is seen.
-/

namespace Scrollback

/-- A glyph and the column it begins in. -/
structure Placed where
  column : Nat
  glyph : Glyph
deriving DecidableEq, Repr

/-- Places glyphs side by side from a column on. Those without width are left out. -/
def Glyph.placeAt : Nat → List Glyph → List Placed
  | _, [] => []
  | column, g :: gs =>
    if g.width = 0 then placeAt column gs else ⟨column, g⟩ :: placeAt (column + g.width) gs

/-- How many places after it a glyph covers. The places after a picture with its sign are drawn
again. -/
def Glyph.covers (g : Glyph) : Nat :=
  if g.text.contains Text.pictureSign then 0 else g.width - 1

/-- The rows of a frame, each with its glyphs in order of their columns. -/
structure Canvas where
  /-- Columns in a row. -/
  width : Nat
  /-- The rows, from the top. -/
  rows : List (List Placed)
deriving Repr

namespace Canvas

/-- Rows in the frame. -/
def height (c : Canvas) : Nat := c.rows.length

/-- Where a row has a glyph that begins outside, numbered from the top, if it has. -/
def outside? (c : Canvas) : Option (Nat × Nat) :=
  (c.rows.zipIdx.flatMap fun (row, y) => row.map fun p => (p.column, y)).find? fun at_ =>
    c.width ≤ at_.1

/-- Checks that every glyph begins inside. -/
def check (c : Canvas) : Checked Canvas :=
  match c.outside? with
  | some (x, y) => .error (.offScreen c.width c.height x y)
  | none => .ok c

/-- The places of a row from a column on. -/
def fillRow : (places column : Nat) → List Placed → List Glyph
  | 0, _, _ => []
  | n + 1, column, [] => .blank :: fillRow n (column + 1) []
  | n + 1, column, p :: ps =>
    if p.column = column then p.glyph :: fillRow n (column + 1) ps
    else .blank :: fillRow n (column + 1) (p :: ps)

/-- Shows places in order, of which so many at the front are covered, also at the end of a row. -/
def uncover : Nat → List Glyph → List Glyph
  | _, [] => []
  | 0, g :: gs => g :: uncover g.covers gs
  | covered + 1, _ :: gs => .blank :: uncover covered gs

/-- Cuts places into rows. -/
def chunk (width : Nat) : (rows : Nat) → List Glyph → List (List Glyph)
  | 0, _ => []
  | n + 1, gs => gs.take width :: chunk width n (gs.drop width)

/-- What is seen in every place. -/
def cells (c : Canvas) : List (List Glyph) :=
  chunk c.width c.height (uncover 0 (c.rows.flatMap (fillRow c.width 0)))

/-- What is seen, as text without blanks at the ends. -/
def lines (c : Canvas) : List String :=
  c.cells.map fun row => String.ofList (Text.trimEnd (row.flatMap (·.text)))

/-- Groups places of one style that stand side by side, with the column they begin in. -/
def runsFrom (column : Nat) : List Glyph → List (Nat × Nat × Style)
  | [] => []
  | g :: gs =>
    match runsFrom (column + 1) gs with
    | (start, length, style) :: rest =>
      if style = g.style then (column, length + 1, style) :: rest
      else (column, 1, g.style) :: (start, length, style) :: rest
    | [] => [(column, 1, g.style)]

/-- The stretches of every row that have a style, with their column and length. -/
def styles (c : Canvas) : List (List (Nat × Nat × Style)) :=
  c.cells.map fun row => (runsFrom 0 row).filter (·.2.2 ≠ {})

end Canvas

end Scrollback
