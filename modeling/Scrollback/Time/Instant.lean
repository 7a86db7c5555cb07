import Scrollback.Count
import Scrollback.Time.Date
/-!
# Instants

A point of time in UTC: a date, a second of the day and a fraction in nanoseconds. A leap second
is written as the last second before it with a fraction of one second or more.

## Main definitions

* `Instant` — the point of time.
* `Instant.shift?` — the same clock reading moved by less than a day.
* `Instant.localDate` — the date on a clock ahead of UTC or behind it.
* `Instant.addMillis` — time passing.
* `Instant.subMinutes` — an earlier instant, a whole number of minutes back.
-/

namespace Scrollback

/-- A point of time in UTC. -/
@[ext]
structure Instant where
  /-- The date. -/
  date : Date
  /-- The second of the day. -/
  second : Nat
  /-- Nanoseconds after that second; 10⁹ or more within a leap second. -/
  nanos : Nat
deriving DecidableEq, Repr

namespace Instant

/-- The parts of the instant are in range, and only the last second of a minute is leapt. -/
def IsValid (t : Instant) : Prop :=
  t.date.IsValid ∧ t.second < 86400 ∧ t.nanos < 2000000000 ∧
    (1000000000 ≤ t.nanos → t.second % 60 = 59)

instance (t : Instant) : Decidable t.IsValid := by unfold IsValid; infer_instance

/-- The instant `n` seconds after midnight of a date, where `n` may run a day over either end. -/
def ofDaySecond? (date : Date) (n : Int) (nanos : Nat) : Option Instant :=
  if n < 0 then date.prev?.map fun d => ⟨d, (n + 86400).toNat, nanos⟩
  else if n < 86400 then some ⟨date, n.toNat, nanos⟩
  else date.next?.map fun d => ⟨d, (n - 86400).toNat, nanos⟩

/-- The clock reading moved by a number of seconds, less than a day either way. -/
def shift? (t : Instant) (seconds : Int) : Option Instant :=
  ofDaySecond? t.date (t.second + seconds) t.nanos

/-- The date on a clock that runs `offset` seconds ahead of UTC; past the dates that are kept, the
date in UTC. -/
def dateAt (offset : Int) (t : Instant) : Date :=
  ((t.shift? offset).map (·.date)).getD t.date

/-- The date on a clock that runs `offset` seconds ahead of UTC, where dates are kept for it. -/
def localDate (offset : Int) (t : Instant) : Checked Date :=
  match t.shift? offset with
  | some u => .ok u.date
  | none => .error .localTimeOverflow

/-- The second of the day on a clock that runs `offset` seconds ahead of UTC. -/
def secondAt (offset : Int) (t : Instant) : Nat :=
  ((t.second + offset) % 86400).toNat

/-- The instant a number of seconds away, by day numbers. -/
def addSeconds (t : Instant) (seconds : Int) : Instant :=
  let total := t.second + seconds
  ⟨Date.ofDayNumber (t.date.dayNumber + total / 86400), (total % 86400).toNat, t.nanos⟩

/-- The instant a number of milliseconds later. A leap second that is left counts as the next. -/
def addMillis (t : Instant) (ms : Nat) : Instant :=
  if ms = 0 then t
  else
    let nanos := t.nanos + ms % 1000 * 1000000
    let carried := t.addSeconds ((ms / 1000 + nanos / 1000000000 : Nat) : Int)
    { carried with nanos := nanos % 1000000000 }

/-- The instant a number of minutes earlier; leaving a leap second starts from the second after. -/
def subMinutes (t : Instant) (minutes : Nat) : Instant :=
  if minutes = 0 then t
  else if t.nanos < 1000000000 then t.addSeconds (-(60 * (minutes : Int)))
  else { t.addSeconds (1 - 60 * (minutes : Int)) with nanos := t.nanos - 1000000000 }

/-- Dates are kept for the instant a number of minutes earlier. -/
def reachesBack (t : Instant) (minutes : Nat) : Bool :=
  decide (Date.minYear ≤ (t.subMinutes minutes).date.year)

end Instant

end Scrollback
