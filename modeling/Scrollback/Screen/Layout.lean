/-!
# Layout

A frame has a header, a footer and the list of messages between them, set apart by rules. A frame
too low for that shows the list alone.

## Main definitions

* `Layout.isCompact` — the list stands alone.
* `Layout.bodyHeight` — the rows of the list.
-/

namespace Scrollback.Layout

/-- Header, footer and the rules at them. -/
def chromeRows : Nat := 4

/-- The list has two rows at least beside a header and a footer. -/
def leastFullHeight : Nat := chromeRows + 2

/-- The frame is too low for a header and a footer. -/
def isCompact (height : Nat) : Bool := decide (height < leastFullHeight)

/-- The rows of the list of messages. -/
def bodyHeight (height : Nat) : Nat :=
  if isCompact height then height else height - chromeRows

/-- Columns left free at both ends of the header and the footer. -/
def padding : Nat := 2

/-- The columns of the header and the footer. -/
def paddedWidth (width : Nat) : Nat := width - 2 * padding

/-- The columns of the footer's right half, rounded down. -/
def rightWidth (width : Nat) : Nat := paddedWidth width / 2

end Scrollback.Layout
