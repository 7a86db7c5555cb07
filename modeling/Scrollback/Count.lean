/-!
# Bounded counts

Sizes, offsets and sequence numbers live in 64 bits, and a few numbers in fewer. They are natural
numbers here, and the few operations that could leave the range are checked: instead of wrapping they
answer a `Fault`.

## Main definitions

* `Fault` — why a computation had no answer in range.
* `Checked` — computations that may fault.
* `Count.addBelow` — the sum of two numbers, checked against a limit.
* `Count.add`, `Count.sub` — checked sum and difference of counts.
-/

namespace Scrollback

/-- A computation left the range of its numbers. -/
inductive Fault where
  /-- A sum passed the largest number of its kind. -/
  | addOverflow
  /-- A difference fell below zero. -/
  | subUnderflow
  /-- A list was asked to hold more elements than can be addressed. -/
  | capacityOverflow
  /-- Stepping back in time passed the first representable instant. -/
  | instantUnderflow
  /-- A clock reading fell outside the dates that are kept. -/
  | localTimeOverflow
  /-- A place outside a screen of so many columns and rows was drawn on. -/
  | offScreen (width height x y : Nat)
deriving DecidableEq, Repr

/-- The wording of a fault in a report. -/
def Fault.message : Fault → String
  | .addOverflow => "attempt to add with overflow"
  | .subUnderflow => "attempt to subtract with overflow"
  | .capacityOverflow => "capacity overflow"
  | .instantUnderflow => "`DateTime - TimeDelta` overflowed"
  | .localTimeOverflow => "Local time out of range for `NaiveDateTime`"
  | .offScreen width height x y =>
    s!"index outside of buffer: the area is Rect \x7b x: 0, y: 0, width: {width}, " ++
      s!"height: {height} \x7d but index is ({x}, {y})"

/-- A computation that either answers or faults. -/
abbrev Checked (α : Type) := Except Fault α

namespace Checked

variable {α β : Type}

/-- A sequence answers when its first part does and the second does on that answer. -/
theorem bind_eq_ok {x : Checked α} {f : α → Checked β} {b : β} :
    (x >>= f) = .ok b ↔ ∃ a, x = .ok a ∧ f a = .ok b := by
  cases x with
  | error e => simp [bind, Except.bind]
  | ok a => simp [bind, Except.bind]

theorem map_eq_ok {x : Checked α} {f : α → β} {b : β} :
    x.map f = .ok b ↔ ∃ a, x = .ok a ∧ f a = b := by
  cases x with
  | error e => simp [Except.map]
  | ok a => simp [Except.map]

theorem map_eq_error {x : Checked α} {f : α → β} {e : Fault} :
    x.map f = .error e ↔ x = .error e := by
  cases x with
  | error e => simp [Except.map]
  | ok a => simp [Except.map]

end Checked

theorem toOption_eq_some {α : Type} {x : Checked α} {a : α} :
    x.toOption = some a ↔ x = .ok a := by
  cases x <;> simp [Except.toOption]

namespace Count

/-- The first number that is no longer a count. -/
def bound : Nat := 0x10000000000000000

/-- The sum of two numbers, if it is below a limit. -/
def addBelow (limit a b : Nat) : Checked Nat :=
  if a + b < limit then .ok (a + b) else .error .addOverflow

/-- The sum of two counts, if it is a count. -/
def add (a b : Nat) : Checked Nat := addBelow bound a b

/-- The difference of two counts, if it is not negative. -/
def sub (a b : Nat) : Checked Nat :=
  if b ≤ a then .ok (a - b) else .error .subUnderflow

theorem addBelow_eq_ok {limit a b c : Nat} :
    addBelow limit a b = .ok c ↔ a + b < limit ∧ c = a + b := by
  unfold addBelow
  split
  · rename_i h; simp [h, eq_comm]
  · rename_i h; simp [h]

theorem addBelow_eq_error {limit a b : Nat} {e : Fault} :
    addBelow limit a b = .error e ↔ limit ≤ a + b ∧ e = .addOverflow := by
  unfold addBelow
  split
  · rename_i h; simp [Nat.not_le.2 h]
  · rename_i h; simp [Nat.not_lt.1 h, eq_comm]

theorem add_eq_ok {a b c : Nat} : add a b = .ok c ↔ a + b < bound ∧ c = a + b := addBelow_eq_ok

theorem add_eq_error {a b : Nat} {e : Fault} :
    add a b = .error e ↔ bound ≤ a + b ∧ e = .addOverflow := addBelow_eq_error

theorem sub_eq_ok {a b c : Nat} : sub a b = .ok c ↔ b ≤ a ∧ c = a - b := by
  unfold sub
  split
  · rename_i h; simp [h, eq_comm]
  · rename_i h; simp [h]

end Count

end Scrollback
