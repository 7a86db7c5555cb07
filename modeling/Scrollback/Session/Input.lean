import Scrollback.Session.Dispatch
/-!
# Terminal input

What keys, wheel and focus do. Moving the view is told to the window as a scroll.

## Main definitions

* `Key`, `Input` — what a terminal reports.
* `Key.ofName` — the names of keys.
* `Session.press` — a key.
* `Session.receiveInput` — anything that a terminal reports.
-/

namespace Scrollback

/-- A key that is told from others. -/
inductive Key where
  | char (c : Char)
  | up
  | down
  | pageUp
  | pageDown
  | bottom
  | escape
  /-- Any other key. -/
  | other
deriving DecidableEq, Repr

/-- The key of a name, or the key that types a character. -/
def Key.ofName : String → Key
  | "Up" => .up
  | "Down" => .down
  | "PageUp" => .pageUp
  | "PageDown" => .pageDown
  | "End" => .bottom
  | "Esc" => .escape
  | name =>
    match name.toList with
    | [c] => .char c
    | _ => .other

/-- What a terminal reports. -/
inductive Input where
  /-- A key was pressed, with the control key held or not. -/
  | key (key : Key) (control : Bool)
  | wheelUp
  | wheelDown
  | focusGained
  | focusLost
  /-- Anything else: a key let go, a click, a changed size. -/
  | other
deriving DecidableEq, Repr

namespace Session

/-- Messages per turn of the wheel. -/
def wheelStep : Nat := 3

/-- Messages per arrow key with the control key held. -/
def fastStep : Nat := 5

/-- What the reader sends with a single key. -/
def cannedReply : String := "on it, will report back shortly"

/-- Messages per page key: one of the visible messages stays. -/
def pageStep (s : Session) : Nat := max (s.window.viewport.visible - 1) 1

/-- Moves the view and tells the window. -/
def scroll (s : Session) (move : Viewport → Viewport) : Checked Session :=
  let s := s.mapWindow fun w => { w with viewport := move w.viewport }
  s.dispatch (.scroll (s.window.viewport.offset s.graph))

/-- Moves toward older messages. -/
def scrollUp (s : Session) (n : Nat) : Checked Session :=
  s.scroll (·.scrollUp s.graph n)

/-- Moves toward newer messages. -/
def scrollDown (s : Session) (n : Nat) : Checked Session :=
  s.scroll (·.scrollDown s.graph n)

/-- A key was pressed. -/
def press (s : Session) : Key → Bool → Checked Session
  | .char 'c', true => .ok { s with quit := true }
  | .char 'q', _ | .escape, _ => .ok { s with quit := true }
  | .up, true => s.scrollUp fastStep
  | .down, true => s.scrollDown fastStep
  | .up, _ | .char 'k', _ => s.scrollUp 1
  | .down, _ | .char 'j', _ => s.scrollDown 1
  | .pageUp, _ => s.scrollUp s.pageStep
  | .pageDown, _ => s.scrollDown s.pageStep
  | .bottom, _ | .char 'G', _ => s.dispatch .jumpToLatest
  | .char 'u', _ => s.dispatch .jumpToUnread
  | .char 'r', _ => s.retry
  | .char 's', _ => s.send cannedReply
  | _, _ => .ok s

/-- The terminal gained or lost the reader's attention. -/
def setFocus (s : Session) (focused : Bool) : Checked Session :=
  (s.mapWindow fun w => { w with focused }).dispatch (.focus focused)

/-- Anything that a terminal reports. -/
def receiveInput (s : Session) : Input → Checked Session
  | .key k control => s.press k control
  | .wheelUp => s.scrollUp wheelStep
  | .wheelDown => s.scrollDown wheelStep
  | .focusGained => s.setFocus true
  | .focusLost => s.setFocus false
  | .other => .ok s

end Session

end Scrollback
