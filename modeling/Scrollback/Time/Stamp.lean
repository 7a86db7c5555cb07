import Scrollback.Text.Blank
import Scrollback.Text.Decimal
import Scrollback.Time.Instant
/-!
# Time stamps

Instants are written in the internet date and time format, `2024-03-01T08:00:00Z`, in UTC and
with as many fraction digits as needed among 0, 3, 6 and 9. Reading is more forgiving than
writing: numbers may be short, blanks may stand between the parts, the separator of date and
time may be a blank, the zone may be `UTC` or an offset, and years may carry a sign.

## Main definitions

* `Instant.render` — the written form.
* `Instant.read?` — the instant that a text writes.
* `Instant.clock`, `Instant.dayMonth`, `Instant.longDay` — the short forms shown to a reader.
* `LocalTime` — what a reader's clock shows.
-/

namespace Scrollback

namespace Instant

open Text

/-! ## Writing -/

/-- A year: four digits, with a sign outside the years 0 to 9999. -/
def renderYear (y : Int) : List Char :=
  if 0 ≤ y ∧ y ≤ 9999 then padded 4 y.toNat
  else (if y < 0 then '-' else '+') :: padded 4 y.natAbs

/-- A fraction of a second: nothing, or a point and 3, 6 or 9 digits. -/
def renderFraction (nanos : Nat) : List Char :=
  if nanos = 0 then []
  else if nanos % 1000000 = 0 then '.' :: padded 3 (nanos / 1000000)
  else if nanos % 1000 = 0 then '.' :: padded 6 (nanos / 1000)
  else '.' :: padded 9 nanos

/-- The written form of an instant. A leap second is second 60. -/
def renderChars (t : Instant) : List Char :=
  let leap := t.nanos / 1000000000
  renderYear t.date.year ++ '-' :: padded 2 t.date.month ++ '-' :: padded 2 t.date.day ++
    'T' :: padded 2 (t.second / 3600) ++ ':' :: padded 2 (t.second / 60 % 60) ++
    ':' :: padded 2 (t.second % 60 + leap) ++ renderFraction (t.nanos % 1000000000) ++ ['Z']

/-- The written form of an instant, as a string. -/
def render (t : Instant) : String :=
  String.ofList t.renderChars

/-! ## Reading -/

/-- Passes over blanks, then over one given character. -/
def expect? (c : Char) (cs : List Char) : Option (List Char) :=
  match trimStart cs with
  | d :: rest => if d = c then some rest else none
  | [] => none

/-- Reads a field of at most `limit` digits after blanks. -/
def field? (limit : Nat) (cs : List Char) : Option (Nat × List Char) :=
  number? limit (trimStart cs)

/-- Reads a year: four digits at most, or any number of them after a sign. -/
def year? (cs : List Char) : Option (Int × List Char) :=
  match trimStart cs with
  | '-' :: rest => (number? rest.length rest).map fun (n, r) => (-(n : Int), r)
  | '+' :: rest => (number? rest.length rest).map fun (n, r) => ((n : Int), r)
  | rest => (number? 4 rest).map fun (n, r) => ((n : Int), r)

/-- Reads a fraction, if there is one: digits after the ninth do not count. -/
def fraction? (cs : List Char) : Option (Nat × List Char) :=
  match cs with
  | '.' :: rest =>
    match takeDigits 9 rest with
    | ([], _) => none
    | (ds, rest) =>
      some (ofDigits ds * Nat.pow 10 (9 - ds.length), rest.dropWhile (fun c => (digit? c).isSome))
  | _ => some (0, cs)

/-- Reads exactly two digits. -/
def twoDigits? : List Char → Option (Nat × List Char)
  | a :: b :: rest => do
    let x ← digit? a
    let y ← digit? b
    pure (x * 10 + y, rest)
  | _ => none

/-- Reads an offset: hours and minutes, with colons or blanks between them. -/
def offsetBody? (cs : List Char) : Option (Nat × List Char) := do
  let (hours, rest) ← twoDigits? cs
  let (minutes, rest) ← twoDigits? (rest.dropWhile fun c => c == ':' || isBlank c)
  if minutes < 60 then pure (hours * 3600 + minutes * 60, rest) else none

/-- Reads a zone, as seconds ahead of UTC. -/
def zone? : List Char → Option (Int × List Char)
  | [] => none
  | c :: rest =>
    if c == 'Z' || c == 'z' then some (0, rest)
    else if c == '+' then (offsetBody? rest).map fun (n, r) => ((n : Int), r)
    else if c == '-' || c == '\u2212' then (offsetBody? rest).map fun (n, r) => (-(n : Int), r)
    else match rest with
      | d :: e :: more =>
        if (c == 'U' || c == 'u') && (d == 'T' || d == 't') && (e == 'C' || e == 'c') then
          some (0, more)
        else none
      | _ => none

/-- Passes over the separator of date and time. -/
def separator? : List Char → Option (List Char)
  | c :: rest => if c == 'T' || c == 't' || c == ' ' then some rest else none
  | [] => none

/-- The instant that a list of characters writes. -/
def readChars? (cs : List Char) : Option Instant := do
  let (year, cs) ← year? cs
  let cs ← expect? '-' cs
  let (month, cs) ← field? 2 cs
  let cs ← expect? '-' cs
  let (day, cs) ← field? 2 cs
  let cs ← separator? cs
  let (hour, cs) ← field? 2 cs
  let cs ← expect? ':' cs
  let (minute, cs) ← field? 2 cs
  let cs ← expect? ':' cs
  let (second, cs) ← field? 2 cs
  let (nanos, cs) ← fraction? cs
  let (offset, cs) ← zone? (trimStart cs)
  let date ← Date.of? year month day
  if trimStart cs = [] ∧ hour < 24 ∧ minute < 60 ∧ second ≤ 60 ∧ offset.natAbs < 86400 then
    let leap := second = 60
    ofDaySecond? date (hour * 3600 + minute * 60 + (if leap then 59 else second) - offset)
      (if leap then nanos + 1000000000 else nanos)
  else none

/-- The instant that a text writes. -/
def read? (s : String) : Option Instant :=
  readChars? s.toList

/-! ## Forms shown to a reader -/

/-- Hours and minutes on a clock that runs `offset` seconds ahead of UTC. -/
def clock (offset : Int) (t : Instant) : String :=
  let s := t.secondAt offset
  String.ofList (padded 2 (s / 3600) ++ ':' :: padded 2 (s / 60 % 60))

/-- The month's name and the day, without a leading zero. -/
def dayMonth (offset : Int) (t : Instant) : String :=
  let d := t.dateAt offset
  d.monthName ++ " " ++ toString d.day

/-- The weekday, the month's name and the day. -/
def longDay (offset : Int) (t : Instant) : String :=
  (t.dateAt offset).weekdayName ++ ", " ++ t.dayMonth offset

end Instant

/-- What a reader's clock shows at an instant. -/
structure LocalTime where
  /-- The day, where dates are kept for it. -/
  day : Instant → Checked Date
  /-- Hours and minutes, in writing. -/
  clock : Instant → String
  /-- The month's name and the day. -/
  dayMonth : Instant → String
  /-- The weekday, the month's name and the day. -/
  longDay : Instant → String

/-- A clock that runs `offset t` seconds ahead of UTC at an instant `t`; it may be set forward and back
over the year. -/
def LocalTime.ahead (offset : Instant → Int) : LocalTime where
  day t := t.localDate (offset t)
  clock t := t.clock (offset t)
  dayMonth t := t.dayMonth (offset t)
  longDay t := t.longDay (offset t)

end Scrollback
