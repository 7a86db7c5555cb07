import Scrollback.Viewport
import Scrollback.Window.Rows
import Scrollback.Window.Transition
/-!
# The chat window

A window joins the state machine with a viewport: the scroll effects of a transition move the
viewport, all others are handed to the host as commands.

## Main definitions

* `Window` — state, viewport, focus, policy and target.
* `Command` — what a window asks its host for.
* `Window.handle` — one event.
* `Window.mounted`, `Window.rowsOn`, `Window.notice?` — what there is to draw.
-/

namespace Scrollback

/-- What a window asks its host for. -/
inductive Command where
  | fetch (direction : Direction)
  | dismissUnread
  | getMostRecent
  | fetchFailed (direction : Direction) (error : FetchError)
deriving DecidableEq, Repr

/-- The command that an effect leaves to the host; scrolling is the window's own work. -/
def Effect.command? : Effect → Option Command
  | .scrollToIndex _ | .scrollToLatest => none
  | .fetch d => some (.fetch d)
  | .dismissUnread => some .dismissUnread
  | .getMostRecent => some .getMostRecent
  | .fetchFailed d e => some (.fetchFailed d e)

/-- Carries out the scrolling of an effect. -/
def Viewport.apply (g : Graph) (v : Viewport) : Effect → Viewport
  | .scrollToIndex i => v.scrollToIndex g i
  | .scrollToLatest => v.scrollToLatest
  | _ => v

/-- The banner of an unread episode. -/
structure Notice where
  /-- How many messages are unread. -/
  count : Nat
  /-- The oldest of them, if it is known. -/
  boundary : Option MessageIndex
  /-- When that one was sent; not told when the reader wrote it and it is the only one. -/
  since : Option Instant
deriving DecidableEq, Repr

/-- A virtualized list of messages. -/
structure Window where
  /-- What it remembers. -/
  state : WindowState := {}
  /-- Where it is scrolled to. -/
  viewport : Viewport := {}
  /-- The reader looks at it. -/
  focused : Bool := true
  /-- The distances and the time it decides by. -/
  policy : Policy := {}
  /-- The message it was opened at. -/
  target : Option MessageIndex := none
deriving DecidableEq, Repr

namespace Window

/-- What a transition reads when an event arrives at time `now`. -/
def inputs (w : Window) (g : Graph) (unread now : Nat) : Inputs where
  graph := g
  unread := unread
  target := w.target
  focused := w.focused
  offset := w.viewport.offset g
  visible := w.viewport.visible
  now := now
  policy := w.policy

/-- One event: the window after it, and the commands for the host in order. -/
def handle (w : Window) (event : Event) (g : Graph) (unread now : Nat) :
    Checked (Window × List Command) := do
  let t ← step w.state event (w.inputs g unread now)
  return ({ w with state := t.state, viewport := t.effects.foldl (Viewport.apply g) w.viewport },
    t.effects.filterMap Effect.command?)

/-- Tells the window where its viewport is scrolled to. -/
def onScroll (w : Window) (g : Graph) (unread now : Nat) : Checked (Window × List Command) :=
  w.handle (.scroll (w.viewport.offset g)) g unread now

/-- The unread boundary to show. -/
def boundary? (w : Window) : Option MessageIndex := w.state.visibleUnread

/-- The view is at the end of the loaded messages. -/
def isAtEnd (w : Window) (g : Graph) : Bool :=
  decide (w.viewport.offset g < w.policy.atEndThreshold)

/-- The positions that are mounted. -/
def mounted (w : Window) (g : Graph) : Checked Mounted :=
  Mounted.around g.size (w.viewport.offset g) w.viewport.visible w.policy.overscan

/-- The rows that are mounted, for a reader of a given name and by the days on any clock. -/
def rowsOn (w : Window) (g : Graph) (identity : Option String) (day : Instant → Checked Date) :
    Checked (List Row) := do
  let mounted ← w.mounted g
  g.annotateOn day mounted { unread := w.boundary?, target := w.target, identity }

/-- The rows that are mounted, for a reader of a given name whose clock is `zone` seconds ahead. -/
def rows (w : Window) (g : Graph) (identity : Option String) (zone : Int) : Checked (List Row) :=
  w.rowsOn g identity (Instant.localDate zone)

/-- The banner to show while an unread episode is open. -/
def notice? (w : Window) (g : Graph) (unread : Nat) (identity : Option String) : Option Notice :=
  if unread = 0 ∨ w.state.unreadDismissed ∨ ¬ w.state.isMounted then none
  else
    let message := w.state.unreadIndex.bind g.post?
    let oursAlone := unread == 1 && (message.any fun m => identity == some m.author)
    some
      { count := unread
        boundary := w.state.unreadIndex
        since := if oursAlone then none else message.map (·.sentAt) }

end Window

end Scrollback
