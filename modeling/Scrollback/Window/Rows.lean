import Scrollback.Graph
import Scrollback.Window.Mounted
/-!
# Rows

Each mounted position is drawn as a row. What a row shows besides its message follows from the
message before it, loaded or mounted or not, and is worked out anew for every frame.

## Main definitions

* `Row` — a message with the marks around it.
* `RowContext` — what the marks depend on besides the messages.
* `Graph.rowAt?` — the row of a position.
* `Graph.annotateOn`, `Graph.annotate` — the rows of a mounted range, oldest first, by the days on any
  clock and on one that is always as far ahead.
-/

namespace Scrollback

/-- A mounted position as it is drawn. -/
structure Row where
  /-- Its place in the channel. -/
  index : MessageIndex
  /-- Its message; a deleted one leaves a placeholder. -/
  message : Option Message
  /-- The author is named above the message. -/
  showAuthor : Bool
  /-- The day is named above the message. -/
  dayBreak : Bool
  /-- The first unread message is announced above it. -/
  unreadMarker : Bool
  /-- The row stands out. -/
  highlighted : Bool
  /-- Nothing newer is loaded. -/
  isLast : Bool
deriving DecidableEq, Repr

namespace Row

/-- The row is a placeholder. -/
def isDeleted (r : Row) : Bool := r.message.isNone

/-- The row's message waits for its acknowledgement. -/
def isPending (r : Row) : Bool := r.message.any (·.pending)

end Row

/-- What the marks of a row depend on besides the messages. -/
structure RowContext where
  /-- The unread boundary to mark. -/
  unread : Option MessageIndex := none
  /-- The message the window was opened at. -/
  target : Option MessageIndex := none
  /-- Who reads: messages that mention this name stand out. -/
  identity : Option String := none
  /-- Seconds by which the reader's clock is ahead of UTC. -/
  zone : Int := 0

namespace Graph

/-- The author is named where it changes, and after anything that is not a message. -/
def namesAuthor (message : Message) (before : Option Node) : Bool :=
  match before.bind Node.message? with
  | some m => message.author != m.author
  | none => true

/-- The day is named where it changes between two messages. `day` tells the day of an instant on the
reader's clock. -/
def changesDay (day : Instant → Checked Date) (message : Message) (before : Option Node) :
    Checked Bool :=
  match before.bind Node.message? with
  | some m => return (← day message.sentAt) != (← day m.sentAt)
  | none => return false

/-- The row of an entry at its position. It faults where the days of two messages have to be compared
and one of them is not kept. -/
def rowOf (g : Graph) (day : Instant → Checked Date) (ctx : RowContext) (position : Nat)
    (e : Entry) : Checked Row := do
  let message := e.node.message?
  let before := if position = 0 then none else g.nodeAt? (position - 1)
  let unreadMarker := ctx.unread == some e.index
  let dayChanged ← message.elim (.ok false) (changesDay day · before)
  return {
    index := e.index
    message := message
    showAuthor := message.any (namesAuthor · before)
    dayBreak := dayChanged && !unreadMarker
    unreadMarker := unreadMarker
    highlighted := ctx.target == some e.index ||
      (message.any fun m => ctx.identity.any m.mentions)
    isLast := g.largest? == some e.index }

/-- The row of a position. -/
def rowAt? (g : Graph) (day : Instant → Checked Date) (ctx : RowContext) (position : Nat) :
    Option (Checked Row) :=
  (g.entryAt? position).map (g.rowOf day ctx position)

/-- More rows than this cannot be held. -/
def rowLimit : Nat := 0x7fffffffffffffff / 24

/-- The rows of a mounted range by the days on any clock, also on one that is set forward and back
over the year, oldest first. Positions past the newest message have none. -/
def annotateOn (g : Graph) (day : Instant → Checked Date) (mounted : Mounted) (ctx : RowContext) :
    Checked (List Row) := do
  let count ← mounted.length
  if rowLimit < count then
    throw .capacityOverflow
  ((List.range' mounted.start (min mounted.stop g.size - mounted.start)).filterMap
    (g.rowAt? day ctx)).mapM id

/-- The rows of a mounted range for a reader whose clock is `ctx.zone` seconds ahead. -/
def annotate (g : Graph) (mounted : Mounted) (ctx : RowContext) : Checked (List Row) :=
  g.annotateOn (Instant.localDate ctx.zone) mounted ctx

end Graph

end Scrollback
