import Scrollback.Fetch
import Scrollback.Message.Index
/-!
# Window state

What a window remembers between two events: how it scrolls, whether a page is on its way in
either direction, whether the reader is idle, and the unread episode.

## Main definitions

* `ScrollMode`, `Gate` — the parts of the state with more than two values.
* `WindowState` — the whole of it.
* `WindowState.phase` — the one label that an observer sees.
-/

namespace Scrollback

/-- How the window scrolls. -/
inductive ScrollMode where
  /-- Not mounted yet. -/
  | initializing
  /-- Kept at the newest message. -/
  | lockedToBottom
  /-- Wherever the reader put it. -/
  | freeScroll
deriving DecidableEq, Repr

/-- Whether a page may be asked for in one direction. -/
inductive Gate where
  /-- It may. -/
  | idle
  /-- One is on its way. -/
  | pending
  /-- There is nothing left to load. -/
  | exhausted
deriving DecidableEq, Repr

/-- The label of a window: a page on its way wins over the scroll mode. -/
inductive WindowPhase where
  | initializing
  | lockedToBottom
  | freeScroll
  | fetchingOlder
  | fetchingNewer
deriving DecidableEq, Repr

/-- What a window remembers between two events. A new window is not mounted and idle. -/
structure WindowState where
  /-- How it scrolls. -/
  scroll : ScrollMode := .initializing
  /-- The gate toward older messages. -/
  older : Gate := .idle
  /-- The gate toward newer messages. -/
  newer : Gate := .idle
  /-- The reader is not taken to be looking. -/
  idle : Bool := true
  /-- When the reader was last active, in milliseconds. -/
  lastActivity : Option Nat := none
  /-- The window is gone. -/
  tornDown : Bool := false
  /-- How many messages were loaded when the window last looked. -/
  prevSize : Nat := 0
  /-- How many messages were unread when the window last looked. -/
  prevUnread : Nat := 0
  /-- The oldest unread message, if it is known. -/
  unreadIndex : Option MessageIndex := none
  /-- The present unread episode was dismissed. -/
  unreadDismissed : Bool := false
  /-- There is no target to scroll to any more. -/
  targetReached : Bool := false
deriving DecidableEq, Repr

namespace WindowState

/-- The label of the window. -/
def phase (s : WindowState) : WindowPhase :=
  if s.older = .pending then .fetchingOlder
  else if s.newer = .pending then .fetchingNewer
  else match s.scroll with
    | .initializing => .initializing
    | .lockedToBottom => .lockedToBottom
    | .freeScroll => .freeScroll

/-- The gate of a direction. -/
def gate (s : WindowState) : Direction → Gate
  | .older => s.older
  | .newer => s.newer

/-- The state with the gate of one direction set. -/
def setGate (s : WindowState) (d : Direction) (g : Gate) : WindowState :=
  match d with
  | .older => { s with older := g }
  | .newer => { s with newer := g }

/-- The window is on screen. -/
def isMounted (s : WindowState) : Bool :=
  !s.tornDown && s.scroll != .initializing

/-- The boundary to show: none once the episode has been dismissed. -/
def visibleUnread (s : WindowState) : Option MessageIndex :=
  if s.unreadDismissed then none else s.unreadIndex

@[simp] theorem gate_setGate (s : WindowState) (d : Direction) (g : Gate) :
    (s.setGate d g).gate d = g := by
  cases d <;> rfl

theorem gate_setGate_of_ne (s : WindowState) {d e : Direction} (h : e ≠ d) (g : Gate) :
    (s.setGate d g).gate e = s.gate e := by
  cases d <;> cases e <;> first | rfl | exact absurd rfl h

end WindowState

end Scrollback
