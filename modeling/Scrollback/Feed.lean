import Scrollback.Fetch
import Scrollback.Graph
/-!
# The feed

A feed stands for the server of a channel. It holds the whole history, `remote`, and keeps up
the part of it that the reader has loaded, `loaded`: pages are copied over on request, and new
messages are appended to both while the loaded part reaches the end.

## Main definitions

* `Feed` — history, loaded part, configuration and the sends under way.
* `Feed.loadLatest`, `Feed.loadAround`, `Feed.jumpToLatest` — filling the loaded part.
* `Feed.serve`, `Feed.answer` — a page, and a page request with its failures.
* `Feed.count`, `Feed.requestBound` — requests are counted, as long as there are numbers for them.
* `Feed.receive`, `Feed.send`, `Feed.acknowledge` — new messages.
-/

namespace Scrollback

/-- How a feed behaves. -/
structure FeedConfig where
  /-- Messages in a page. -/
  pageSize : Nat := 50
  /-- Milliseconds until a request is answered. -/
  latency : Nat := 250
  /-- Every request whose number this divides fails. -/
  failEvery : Option Nat := none
  /-- Milliseconds after which a request is given up. -/
  timeout : Option Nat := none
  /-- The reader's name. -/
  identity : String := "nec"
deriving DecidableEq, Repr

/-- A request is given up before it is answered. -/
def FeedConfig.timesOut (c : FeedConfig) : Bool :=
  c.timeout.any fun limit => decide (limit < c.latency)

/-- Milliseconds until a request settles. -/
def FeedConfig.settleTime (c : FeedConfig) : Nat :=
  min c.latency (c.timeout.getD c.latency)

/-- A mark that tells one send from all others. -/
structure Nonce where
  /-- Sends are numbered. -/
  number : Nat
deriving DecidableEq, Repr

/-- A message of the reader's that the server has not acknowledged yet. -/
structure PendingSend where
  /-- Where it stands. -/
  index : MessageIndex
  /-- The mark that its acknowledgement has to carry. -/
  nonce : Nonce
deriving DecidableEq, Repr

/-- What a jump to the newest message did to the loaded part. -/
inductive LatestPage where
  /-- The newest page was joined to it; this many indices were new. -/
  | extended (added : Nat)
  /-- It ended before the newest page and was exchanged for it. -/
  | replaced
deriving DecidableEq, Repr

/-- The server of a channel, as far as a reader can tell. -/
structure Feed where
  /-- The whole history. -/
  remote : Graph
  /-- The part of it that is loaded. -/
  loaded : Graph := Graph.empty
  /-- How the feed behaves. -/
  config : FeedConfig := {}
  /-- Requests counted so far, failures included. -/
  requests : Nat := 0
  /-- Sends that wait for their acknowledgement. -/
  pending : List PendingSend := []
  /-- Sends so far. -/
  sends : Nat := 0

namespace Feed

/-! ## Loading -/

/-- Copies the entries at positions `start` to `stop` of the history; counts the new ones. -/
def copy (f : Feed) (start stop : Nat) : Feed × Nat :=
  let (loaded, added) := f.loaded.extend (f.remote.slice start stop)
  ({ f with loaded }, added)

/-- The position at which the newest page begins. -/
def latestStart (f : Feed) : Nat := f.remote.size - f.config.pageSize

/-- Loads the newest page and counts the new indices. -/
def loadLatest (f : Feed) : Feed × Nat :=
  f.copy f.latestStart f.remote.size

/-- The loaded part comes up to the newest page, so that joining them leaves no hole. -/
def reachesLatest (f : Feed) : Bool :=
  match f.loaded.largest?, f.latestStart with
  | some newest, before + 1 =>
    (f.remote.keyAt? before).any fun k => decide (k ≤ newest)
  | _, _ => true

/-- Brings the loaded part to the end of the channel without leaving a hole. -/
def jumpToLatest (f : Feed) : Feed × LatestPage :=
  if f.reachesLatest then
    let (f, added) := f.loadLatest
    (f, .extended added)
  else ({ f with loaded := Graph.empty }.loadLatest.1, .replaced)

/-- Loads the page around an index and counts the new indices. -/
def loadAround (f : Feed) (target : MessageIndex) : Checked (Feed × Nat) := do
  let middle := f.remote.rank target
  let half := f.config.pageSize / 2
  let stop ← Count.add middle half
  return f.copy (middle - half) (min stop f.remote.size)

/-! ## Requests -/

/-- The number of entries of the history up to an index. -/
def rankAfter (f : Feed) (i : MessageIndex) : Nat :=
  (f.remote.entries.takeWhile (·.index ≤ i)).length

/-- The positions of the page that continues the loaded part in a direction. -/
def pageBounds (f : Feed) : Direction → Checked (Nat × Nat)
  | .older =>
    let stop := f.loaded.smallest?.elim f.remote.size f.remote.rank
    .ok (stop - f.config.pageSize, stop)
  | .newer => do
    let start := f.loaded.largest?.elim f.remote.size f.rankAfter
    let stop ← Count.add start f.config.pageSize
    return (start, min stop f.remote.size)

/-- Whether a page at these positions was the last of its direction. -/
def outcome (f : Feed) (d : Direction) (start stop : Nat) : FetchOutcome :=
  let last := match d with
    | .older => start == 0
    | .newer => stop == f.remote.size
  if last then .exhausted else .more

/-- Loads the page that continues the loaded part in a direction. -/
def serve (f : Feed) (d : Direction) : Checked (Feed × FetchOutcome) := do
  let (start, stop) ← f.pageBounds d
  return ((f.copy start stop).1, f.outcome d start stop)

/-- The numbers of requests have 32 bits. -/
def requestBound : Nat := 0x100000000

/-- Counts one more request. -/
def count (f : Feed) : Checked Feed := do
  let requests ← Count.addBelow requestBound f.requests 1
  return { f with requests }

/-- The request of this number fails. -/
def failsAt (f : Feed) (n : Nat) : Bool :=
  f.config.failEvery.any fun every => 0 < every && n % every == 0

/-- Answers the request that was counted last. -/
def reply (f : Feed) (d : Direction) : Feed × Checked FetchResult :=
  if f.failsAt f.requests then (f, .ok (.failed (.unavailable "simulated outage")))
  else if f.remote.isEmpty then (f, .ok (.failed .channelNotFound))
  else
    match f.serve d with
    | .ok (f, outcome) => (f, .ok (.loaded outcome))
    | .error fault => (f, .error fault)

/-- Answers a request that was not given up. The request counts even when its page faults; it does
not when there is no number left for it. -/
def answer (f : Feed) (d : Direction) : Feed × Checked FetchResult :=
  match f.count with
  | .ok f => f.reply d
  | .error fault => (f, .error fault)

/-- How a request settles: given up in time, or answered. -/
def settle (f : Feed) (d : Direction) : Feed × Checked FetchResult :=
  if f.config.timesOut then (f, .ok (.failed .timeout)) else f.answer d

/-! ## New messages -/

/-- Appends a message to the history, and to the loaded part if that reaches the end. -/
def append (f : Feed) (m : Message) : Checked (Feed × MessageIndex) := do
  let last := f.remote.largest?
  let index ← last.elim (.ok MessageIndex.first) MessageIndex.next
  let loaded := if f.loaded.largest? = last then f.loaded.insert index (.post m) else f.loaded
  return ({ f with remote := f.remote.insert index (.post m), loaded }, index)

/-- A message written by someone else arrives. -/
def receive (f : Feed) (author text : String) (now : Instant) : Checked (Feed × MessageIndex) :=
  f.append (.ofText author text now)

/-- The reader sends a message; it is pending until it is acknowledged. -/
def send (f : Feed) (text : String) (now : Instant) : Checked (Feed × PendingSend) := do
  let (f, index) ← f.append (Message.ofText f.config.identity text now).asPending
  let sent : PendingSend := ⟨index, ⟨f.sends⟩⟩
  return ({ f with
    pending := sent :: f.pending.filter (·.index ≠ index), sends := f.sends + 1 }, sent)

/-- Confirms a send. Whatever does not match a send under way changes nothing. -/
def acknowledge (f : Feed) (sent : PendingSend) : Feed × Bool :=
  if sent ∈ f.pending then
    ({ f with
        pending := f.pending.filter (·.index ≠ sent.index)
        remote := f.remote.acknowledge sent.index
        loaded := f.loaded.acknowledge sent.index }, true)
  else (f, false)

end Feed

end Scrollback
