import Scrollback.Session.Basic
/-!
# Dispatching events

An event goes to the window, and the session carries out the commands that come back. A command
that changes what the window reads is followed by another event, so that the window always
catches up; a dispatch ends when no event is left.

## Main definitions

* `Session.execute`, `Session.executeAll` — one command, and the commands of one event.
* `Session.dispatch` — an event with all that follows from it.
* `Session.handleResult`, `Session.handleNews` — a settled request, and news from the feed.
* `Session.drain` — everything that waits.
-/

namespace Scrollback

/-- A command that asks for a page. -/
def Command.isFetch : Command → Bool
  | .fetch _ => true
  | _ => false

namespace Session

/-! ## Commands -/

/-- Carries out a command. The event tells the window of a change in what it reads. -/
def execute (s : Session) : Command → Session × Option Event
  | .fetch d => (s.start s.feed.config.settleTime (.page d), none)
  | .dismissUnread => ({ s with unread := 0 }, if s.unread = 0 then none else some .update)
  | .getMostRecent =>
    match s.feed.jumpToLatest with
    | (feed, .extended added) => ({ s with feed }, if added = 0 then none else some .update)
    | (feed, .replaced) => ({ s with feed, failure := none }, some .reset)
  | .fetchFailed d e => ({ s with failure := some (d, e) }, none)

/-- Carries out the commands of one event. Once the loaded part has been replaced, the pages that
were asked for along with it are out of date and are not requested. -/
def executeAll (s : Session) (replaced : Bool) : List Command → Session × List Event
  | [] => (s, [])
  | c :: rest =>
    if replaced && c.isFetch then s.executeAll replaced rest
    else
      let (s, followUp) := s.execute c
      let (s, more) := s.executeAll (replaced || followUp == some .reset) rest
      (s, followUp.toList ++ more)

@[simp] theorem executeAll_nil (s : Session) (replaced : Bool) :
    s.executeAll replaced [] = (s, []) := rfl

/-! ## Events -/

/-- One event: the session after it, and the events that follow from it. -/
def handle (s : Session) (e : Event) : Checked (Session × List Event) := do
  let (window, commands) ← s.window.handle e s.graph s.unread s.now
  return { s with window }.executeAll false commands

/-- Handles queued events and what follows from them, `fuel` events at most. -/
def handleAll : Nat → List Event → Session → Checked Session
  | 0, _, s => .ok s
  | _, [], s => .ok s
  | fuel + 1, e :: rest, s => do
    let (s, more) ← s.handle e
    handleAll fuel (rest ++ more) s

/-- No event has more than this many events in its wake, itself included. -/
def wake : Nat := 8

/-- An event with all that follows from it. -/
def dispatch (s : Session) (e : Event) : Checked Session :=
  handleAll wake [e] s

/-! ## Queues -/

/-- The failed request is one of a direction. -/
def hasFailed (s : Session) (d : Direction) : Bool :=
  s.failure.any fun f => f.1 == d

/-- A settled request is told to the window, which first learns what the page brought. -/
def handleResult (s : Session) (d : Direction) (r : FetchResult) : Checked Session := do
  let s := if r.isLoaded && s.hasFailed d then { s with failure := none } else s
  let s ← s.dispatch .update
  s.dispatch (.settled d r)

/-- News from the feed: messages of others count as unread. -/
def handleNews (s : Session) : FeedEvent → Checked Session
  | .arrived _ ours => do
    let unread ← if ours then .ok s.unread else Count.add s.unread 1
    { s with unread }.dispatch .update
  | .acknowledged _ => .ok s

/-- What was taken from a queue. -/
inductive Handled where
  | result (direction : Direction) (result : FetchResult)
  | news (event : FeedEvent)
deriving DecidableEq, Repr

/-- Takes what has waited longest, results before news. -/
def takeWaiting? (s : Session) : Option (Handled × Session) :=
  match s.results, s.news with
  | (d, r) :: results, _ => some (.result d r, { s with results })
  | [], e :: news => some (.news e, { s with news })
  | [], [] => none

/-- Handles what was taken from a queue. -/
def handleWaiting (s : Session) : Handled → Checked Session
  | .result d r => s.handleResult d r
  | .news e => s.handleNews e

/-- Handles what waits, `fuel` items at most, and lists it in order. -/
def drainUpTo : Nat → Session → Checked (Session × List Handled)
  | 0, s => .ok (s, [])
  | fuel + 1, s =>
    match s.takeWaiting? with
    | none => .ok (s, [])
    | some (h, s) => do
      let s ← s.handleWaiting h
      let (s, rest) ← drainUpTo fuel s
      return (s, h :: rest)

/-- Handles everything that waits. Handling puts nothing into the queues. -/
def drain (s : Session) : Checked (Session × List Handled) :=
  drainUpTo (s.results.length + s.news.length) s

/-! ## The reader's doing -/

/-- Sends a message, whose acknowledgement is on its way for as long as a request is. -/
def send (s : Session) (text : String) : Checked Session := do
  let (feed, sent) ← s.feed.send text (s.timeAt s.now)
  ({ s with feed }.start feed.config.latency (.acknowledgement sent)).dispatch .update

/-- Asks again for the page that failed last. -/
def retry (s : Session) : Checked Session :=
  match s.failure with
  | some (d, _) => { s with failure := none }.dispatch (.retry d)
  | none => .ok s

end Session

end Scrollback
