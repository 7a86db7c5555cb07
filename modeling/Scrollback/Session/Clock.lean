import Scrollback.Session.Dispatch
/-!
# Passing time

When time passes, tasks are done as they fall due, the one started first where two fall together.
What they come to is queued; the session handles it afterwards. A subscription that goes on waits
again behind all tasks started so far.

## Main definitions

* `Session.perform` — a task is done.
* `Session.advance` — time passes.
* `Session.mount` — the session goes on screen.
-/

namespace Scrollback

namespace Task

/-- The task is done before another one. -/
def precedes (t u : Task) : Bool :=
  t.due < u.due || (t.due == u.due && t.number < u.number)

/-- The task that is done next, and the others. -/
def next? : List Task → Option (Task × List Task)
  | [] => none
  | t :: rest =>
    match next? rest with
    | some (u, others) => if u.precedes t then some (u, t :: others) else some (t, rest)
    | none => some (t, [])

/-- There is a next task unless there is none at all. -/
theorem next?_eq_none {ts : List Task} : next? ts = none ↔ ts = [] := by
  cases ts with
  | nil => simp [next?]
  | cons t ts =>
    rw [next?]
    split
    · split <;> simp
    · simp

end Task

namespace Session

/-! ## Tasks -/

/-- Queues news, unless none is taken any more. -/
def report (s : Session) (e : FeedEvent) : Session :=
  if s.closed then s else { s with news := s.news ++ [e] }

/-- Who writes the messages of the subscription. -/
def subscriptionAuthor (number : Nat) : String :=
  if number % 2 = 0 then "bus" else "wes"

/-- What the messages of the subscription say. -/
def subscriptionText (number : Nat) : String :=
  "live update #" ++ toString number

/-- A task is done. One whose work faults leaves nothing behind but its traces in the feed. The
subscription ends when nobody takes its news; until then every delivery starts its next wait. -/
def perform (s : Session) (t : Task) : Session :=
  match t.job with
  | .page d =>
    match s.feed.settle d with
    | (feed, .ok r) => { s with feed, results := s.results ++ [(d, r)] }
    | (feed, .error _) => { s with feed }
  | .acknowledgement sent =>
    match s.feed.acknowledge sent with
    | (feed, true) => { s with feed }.report (.acknowledged sent)
    | (feed, false) => { s with feed }
  | .subscription period delivered =>
    let number := delivered + 1
    match s.feed.receive (subscriptionAuthor number) (subscriptionText number)
        (s.timeAt t.due) with
    | .ok (feed, index) =>
      if s.closed then { s with feed }
      else
        { s with
          feed
          news := s.news ++ [.arrived index false]
          tasks :=
            { t with
              due := t.due + period
              job := .subscription period number
              number := s.started } :: s.tasks
          started := s.started + 1 }
    | .error _ => s

/-! ## Time -/

/-- Does the tasks that are due by a time, `fuel` of them at most. -/
def performDue : Nat → Nat → Session → Session
  | 0, _, s => s
  | fuel + 1, time, s =>
    match Task.next? s.tasks with
    | some (t, others) =>
      if t.due ≤ time then performDue fuel time ({ s with tasks := others }.perform t) else s
    | none => s

/-- A bound on how many tasks can be done by a time: each takes one off the sum, since it goes or
comes due later. -/
def workBy (time : Nat) : List Task → Nat
  | [] => 0
  | t :: rest => (time + 1 - t.due) + workBy time rest

/-- Time passes. -/
def advance (s : Session) (ms : Nat) : Session :=
  let time := s.now + ms
  { performDue (workBy time s.tasks) time s with now := time }

/-- The session goes on screen, on a list of so many rows, and its subscription begins. -/
def mount (s : Session) (rows : Nat) : Checked Session := do
  let s ← (s.mapWindow fun w => { w with viewport.height := rows }).dispatch .mount
  return match s.incomingEvery with
    | some period => s.start period (.subscription period 0)
    | none => s

end Session

end Scrollback
