import Scrollback.Graph
/-!
# The viewport

The viewport decides which message stands at the bottom of the screen. It is anchored to that
message, so that messages arriving below do not move what the reader sees; without an anchor it
follows the newest message.

## Main definitions

* `Viewport` — the anchor and the height in rows.
* `Viewport.bottom?`, `Viewport.offset` — the newest visible message, by index and by rank.
* `Viewport.scrollUp`, `Viewport.scrollDown`, `Viewport.scrollToIndex` — moving it.
-/

namespace Scrollback

/-- The place of the screen within the loaded messages. -/
structure Viewport where
  /-- The newest visible message, or none to follow the newest one. -/
  anchor : Option MessageIndex := none
  /-- Rows on screen. -/
  height : Nat := 0
deriving DecidableEq, Repr

namespace Viewport

/-- The number of messages that may be visible at once: one at least. -/
def visible (v : Viewport) : Nat := max v.height 1

/-- The newest visible message, if anything is loaded. -/
def bottom? (v : Viewport) (g : Graph) : Option MessageIndex :=
  (v.anchor.filter g.contains).or g.largest?

/-- How many loaded messages are newer than the newest visible one. -/
def offset (v : Viewport) (g : Graph) : Nat :=
  match v.anchor.bind g.positionOf? with
  | some p => g.size - 1 - p
  | none => 0

/-- The position of the newest visible message. -/
def bottomPosition? (v : Viewport) (g : Graph) : Option Nat :=
  (v.bottom? g).bind g.positionOf?

/-- Moves toward older messages. -/
def scrollUp (v : Viewport) (g : Graph) (n : Nat) : Viewport :=
  match v.bottomPosition? g with
  | some p => { v with anchor := g.keyAt? (p - n) }
  | none => v

/-- The anchor at a position: none at the newest message. -/
def anchorAt (g : Graph) (p : Nat) : Option MessageIndex :=
  if g.size - 1 ≤ p then none else g.keyAt? p

/-- Moves toward newer messages, and follows the newest one from there on. -/
def scrollDown (v : Viewport) (g : Graph) (n : Nat) : Viewport :=
  match v.bottomPosition? g with
  | some p => { v with anchor := anchorAt g (p + n) }
  | none => v

/-- Shows a message as the oldest visible one, or as near to the top as history allows. -/
def scrollToIndex (v : Viewport) (g : Graph) (i : MessageIndex) : Viewport :=
  match g.positionOf? i with
  | some p => { v with anchor := anchorAt g (p + (v.visible - 1)) }
  | none => v

/-- Follows the newest message. -/
def scrollToLatest (v : Viewport) : Viewport :=
  { v with anchor := none }

end Viewport

end Scrollback
