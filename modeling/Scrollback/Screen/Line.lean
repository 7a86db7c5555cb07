import Scrollback.Screen.Style
import Scrollback.Text.Blank
import Scrollback.Text.Width
/-!
# Lines of styled text

A line is made of spans, and a span is text in one style. To be laid out, a line is cut into
glyphs: what the terminal shows in one place.

## Main definitions

* `Span`, `Line` — styled text.
* `Glyph` — a cluster with its width and its style.
* `Line.glyphs` — the glyphs of a line.
* `Glyph.truncate` — the glyphs that fit.
-/

namespace Scrollback

/-- Text in one style. -/
structure Span where
  text : String
  style : Style := {}
deriving DecidableEq, Repr

/-- Spans in a row, on a style that shows where theirs are open. -/
structure Line where
  spans : List Span
  style : Style := {}
deriving DecidableEq, Repr

/-- What a terminal shows in one place. -/
structure Glyph where
  /-- Its characters. -/
  text : List Char
  /-- The columns that it takes. -/
  width : Nat
  /-- How it looks. -/
  style : Style := {}
deriving DecidableEq, Repr

namespace Glyph

/-- An empty place. -/
def blank : Glyph := ⟨[' '], 1, {}⟩

/-- Lines may be broken at the glyph. A space that forbids it is no blank. -/
def isBlank (g : Glyph) : Bool :=
  g.text == ['\u200b'] || (g.text.all Text.isBlank && g.text != ['\u00a0'])

/-- The columns that glyphs take. -/
def total : List Glyph → Nat
  | [] => 0
  | g :: gs => g.width + total gs

/-- The glyphs that fit into the columns that are left. -/
def truncateTo : Nat → List Glyph → List Glyph
  | _, [] => []
  | room, g :: gs => if g.width ≤ room then g :: truncateTo (room - g.width) gs else []

/-- The glyphs at the front that fit into a width. Those that no line could hold are left out. -/
def truncate (width : Nat) (gs : List Glyph) : List Glyph :=
  truncateTo width (gs.filter (·.width ≤ width))

end Glyph

/-- Controls have no glyph. -/
def isControl (c : Char) : Bool :=
  c.toNat < 0x20 || (0x7F ≤ c.toNat && c.toNat ≤ 0x9F)

/-- The glyphs of a span on a lower style. -/
def Span.glyphs (lower : Style) (s : Span) : List Glyph :=
  ((Text.clusters s.text.toList).filter (!·.any isControl)).map fun cs =>
    ⟨cs, Text.clusterWidth cs, s.style.onto lower⟩

/-- The glyphs of a line. -/
def Line.glyphs (l : Line) : List Glyph :=
  l.spans.flatMap (Span.glyphs l.style)

end Scrollback
