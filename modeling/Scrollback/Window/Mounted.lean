import Scrollback.Count
/-!
# Mounted ranges

Only a range of positions around the viewport is mounted, so that the work of drawing does not
grow with the channel.

## Main definitions

* `Mounted` — a half-open range of positions.
* `Mounted.around` — the range for a viewport at a given offset.
* `Mounted.nearOldest`, `Mounted.nearNewest` — the range comes close to a loaded end.
-/

namespace Scrollback

/-- A half-open range of mounted positions. -/
structure Mounted where
  /-- The first mounted position. -/
  start : Nat
  /-- The first position after the range. -/
  stop : Nat
deriving DecidableEq, Repr

namespace Mounted

/-- The range that mounts nothing. -/
def none : Mounted := ⟨0, 0⟩

/-- The range around a viewport whose newest visible message has `offset` newer ones loaded,
among `size` loaded messages. -/
def around (size offset visible overscan : Nat) : Checked Mounted := do
  if size = 0 then
    return none
  let bottom := size - 1 - min offset (size - 1)
  let stop ← Count.add (bottom + 1) overscan
  return ⟨bottom + 1 - max visible 1 - overscan, min stop size⟩

/-- How many positions are mounted. -/
def length (m : Mounted) : Checked Nat := Count.sub m.stop m.start

/-- The range mounts nothing. -/
def isEmpty (m : Mounted) : Bool := m.start == m.stop

/-- The range begins within `threshold` of the oldest loaded message. -/
def nearOldest (m : Mounted) (threshold : Nat) : Bool :=
  !m.isEmpty && decide (m.start ≤ threshold)

/-- The range ends within `threshold` of the newest of `size` loaded messages. -/
def nearNewest (m : Mounted) (size threshold : Nat) : Checked Bool :=
  if m.isEmpty then .ok false
  else do
    let reach ← Count.add m.stop threshold
    return decide (size ≤ reach)

end Mounted

end Scrollback
