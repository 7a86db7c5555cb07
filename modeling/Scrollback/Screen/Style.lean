/-!
# Styles

The colours and attributes of text on screen. A style may leave either colour open, to be filled
in by the style of what the text stands in.

## Main definitions

* `Color`, `Style` — colours and styles.
* `Style.onto` — a style laid over another.
-/

namespace Scrollback

/-- A colour of the terminal. -/
inductive Color where
  | darkGray
  | white
  | red
  | cyan
  | yellow
  /-- A mixture of red, green and blue. -/
  | mixed (red green blue : UInt8)
deriving DecidableEq, Repr

/-- How text looks. -/
structure Style where
  /-- The colour of the text, unless it is left open. -/
  foreground : Option Color := none
  /-- The colour behind the text, unless it is left open. -/
  background : Option Color := none
  bold : Bool := false
  italic : Bool := false
  underlined : Bool := false
deriving DecidableEq, Repr

namespace Style

/-- A style laid over another, whose colours show where the upper leaves them open. -/
def onto (upper lower : Style) : Style where
  foreground := upper.foreground.or lower.foreground
  background := upper.background.or lower.background
  bold := upper.bold || lower.bold
  italic := upper.italic || lower.italic
  underlined := upper.underlined || lower.underlined

/-- Text in a colour. -/
def ink (c : Color) : Style := { foreground := some c }

end Style

end Scrollback
