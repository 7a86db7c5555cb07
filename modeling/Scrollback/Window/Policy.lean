/-!
# Window policy

The distances and the time by which a window decides. Distances are counted in messages from the
newest loaded one.
-/

namespace Scrollback

/-- The distances and the time by which a window decides. -/
structure Policy where
  /-- Messages mounted beyond each end of the visible ones. -/
  overscan : Nat := 10
  /-- How near to a loaded end a page is asked for. -/
  fetchThreshold : Nat := 5
  /-- Scrolling further than this means the reader has turned away. -/
  idleThreshold : Nat := 3
  /-- Below this offset the view counts as being at the end. -/
  atEndThreshold : Nat := 4
  /-- Unread messages are dismissed only below this offset. -/
  dismissOffset : Nat := 5
  /-- A focused reader counts as idle after this many milliseconds. -/
  idleTimeout : Nat := 60000
deriving DecidableEq, Repr

end Scrollback
