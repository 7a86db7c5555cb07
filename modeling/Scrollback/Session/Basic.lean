import Scrollback.Feed
import Scrollback.Window
/-!
# Sessions

A session is a reader in front of a channel: the feed, the window on it, the number of unread
messages and the last failed request. Work that takes time is kept as tasks; what the tasks come
to waits in two queues until the session handles it.

## Main definitions

* `Task`, `Job` — work under way and when it is done.
* `FeedEvent` — news from the feed.
* `Session` — the reader's side of a channel.
* `Session.start` — work is begun.
-/

namespace Scrollback

/-- Work that takes time. -/
inductive Job where
  /-- A page was asked for. -/
  | page (direction : Direction)
  /-- A send is on its way to the server. -/
  | acknowledgement (sent : PendingSend)
  /-- Every `period` milliseconds somebody writes a message; `delivered` were written so far. -/
  | subscription (period delivered : Nat)
deriving DecidableEq, Repr

/-- Work under way. -/
structure Task where
  /-- Tasks are numbered in the order in which they were last started. -/
  number : Nat
  /-- When it is done, in milliseconds. -/
  due : Nat
  /-- What is done then. -/
  job : Job
deriving DecidableEq, Repr

/-- News from the feed. -/
inductive FeedEvent where
  /-- A message was appended; `ours` tells that the reader sent it. -/
  | arrived (index : MessageIndex) (ours : Bool)
  /-- A send was acknowledged. -/
  | acknowledged (sent : PendingSend)
deriving DecidableEq, Repr

/-- A reader in front of a channel. -/
structure Session where
  /-- The name of the channel. -/
  channel : String := "general"
  /-- The server of the channel, and the part of the channel that is loaded. -/
  feed : Feed
  /-- The window on the loaded part. -/
  window : Window := {}
  /-- How many messages are unread. -/
  unread : Nat := 0
  /-- The last request that failed, until its direction loads again. -/
  failure : Option (Direction × FetchError) := none
  /-- The period of the subscription, if there is to be one. -/
  incomingEvery : Option Nat := none
  /-- The reader wants to leave. -/
  quit : Bool := false
  /-- Work under way. -/
  tasks : List Task := []
  /-- How many tasks were started so far. -/
  started : Nat := 0
  /-- Settled page requests that wait to be handled, oldest first. -/
  results : List (Direction × FetchResult) := []
  /-- News that waits to be handled, oldest first. -/
  news : List FeedEvent := []
  /-- No news is taken any more. -/
  closed : Bool := false
  /-- The time of day when the session began. -/
  opened : Instant
  /-- Milliseconds since then. -/
  now : Nat := 0

namespace Session

/-- The reader's name. -/
def identity (s : Session) : String := s.feed.config.identity

/-- The loaded messages. -/
def graph (s : Session) : Graph := s.feed.loaded

/-- The time of day a number of milliseconds after the session began. -/
def timeAt (s : Session) (ms : Nat) : Instant := s.opened.addMillis ms

/-- Begins work that is done `delay` milliseconds from now. -/
def start (s : Session) (delay : Nat) (job : Job) : Session :=
  { s with tasks := ⟨s.started, s.now + delay, job⟩ :: s.tasks, started := s.started + 1 }

/-- The session with its window changed. -/
def mapWindow (s : Session) (f : Window → Window) : Session :=
  { s with window := f s.window }

end Session

end Scrollback
