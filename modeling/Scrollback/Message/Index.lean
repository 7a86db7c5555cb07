import Scrollback.Count
import Scrollback.Text.Blank
import Scrollback.Text.Decimal
/-!
# Message indices

A message index is the position of a message in channel order: a 64-bit sequence number. The
server writes long numbers with `.` between groups of digits, so a reader of indices passes over
every point.

## Main definitions

* `MessageIndex` — a sequence number with its bound.
* `MessageIndex.next` — the index after it, if there is one.
* `MessageIndex.parse` — the index written in a text, or why there is none.
-/

namespace Scrollback

/-- A position in channel order. -/
@[ext]
structure MessageIndex where
  /-- The sequence number. -/
  seq : Nat
  /-- Sequence numbers fit in 64 bits. -/
  seq_lt : seq < Count.bound
deriving DecidableEq, Repr

namespace MessageIndex

instance : LT MessageIndex := ⟨fun a b => a.seq < b.seq⟩
instance : LE MessageIndex := ⟨fun a b => a.seq ≤ b.seq⟩
instance (a b : MessageIndex) : Decidable (a < b) := inferInstanceAs (Decidable (a.seq < b.seq))
instance (a b : MessageIndex) : Decidable (a ≤ b) := inferInstanceAs (Decidable (a.seq ≤ b.seq))
instance : ToString MessageIndex := ⟨fun a => toString a.seq⟩
instance : Inhabited MessageIndex := ⟨⟨0, by decide⟩⟩

theorem lt_def {a b : MessageIndex} : a < b ↔ a.seq < b.seq := Iff.rfl
theorem le_def {a b : MessageIndex} : a ≤ b ↔ a.seq ≤ b.seq := Iff.rfl

theorem lt_trans {a b c : MessageIndex} (h : a < b) (k : b < c) : a < c := Nat.lt_trans h k
theorem lt_irrefl (a : MessageIndex) : ¬ a < a := Nat.lt_irrefl a.seq
theorem ne_of_lt {a b : MessageIndex} (h : a < b) : a ≠ b := fun e => lt_irrefl b (e ▸ h)

theorem lt_of_not_lt_of_ne {a b : MessageIndex} (h : ¬ a < b) (k : a ≠ b) : b < a := by
  have k' : a.seq ≠ b.seq := fun e => k (MessageIndex.ext e)
  simp only [lt_def] at *
  omega

/-- The first index of a channel whose server numbers its messages from one. -/
def first : MessageIndex := ⟨1, by decide⟩

/-- The index after `i`; the largest index has none. -/
def next (i : MessageIndex) : Checked MessageIndex :=
  if h : i.seq + 1 < Count.bound then .ok ⟨i.seq + 1, h⟩ else .error .addOverflow

/-! ## Reading an index -/

/-- Why a text names no index. -/
inductive ParseError where
  /-- Nothing was left to read. -/
  | empty
  /-- A character was neither a digit nor the one sign allowed in front. -/
  | invalidDigit
  /-- The digits passed the largest index. -/
  | tooLarge
deriving DecidableEq, Repr

/-- The wording of a parse error. -/
def ParseError.message : ParseError → String
  | .empty => "cannot parse integer from empty string"
  | .invalidDigit => "invalid digit found in string"
  | .tooLarge => "number too large to fit in target type"

/-- Reads digits onto a value. At each character a foreign one is reported before an overflow. -/
def readDigits (value : Nat) : List Char → Except ParseError Nat
  | [] => .ok value
  | c :: cs =>
    match Text.digit? c with
    | none => .error .invalidDigit
    | some d =>
      if value * 10 + d < Count.bound then readDigits (value * 10 + d) cs else .error .tooLarge

/-- Reads an unsigned number: an optional `+`, then at least one digit. -/
def readNumber : List Char → Except ParseError Nat
  | [] => .error .empty
  | ['+'] => .error .invalidDigit
  | ['-'] => .error .invalidDigit
  | '+' :: cs => readDigits 0 cs
  | cs => readDigits 0 cs

theorem lt_of_readDigits {value n : Nat} {cs : List Char} (hv : value < Count.bound)
    (h : readDigits value cs = .ok n) : n < Count.bound := by
  induction cs generalizing value with
  | nil => cases h; exact hv
  | cons c cs ih =>
    rw [readDigits] at h
    split at h
    · cases h
    · split at h
      · next hlt => exact ih hlt h
      · cases h

theorem lt_of_readNumber {n : Nat} {cs : List Char} (h : readNumber cs = .ok n) :
    n < Count.bound := by
  unfold readNumber at h
  split at h
  · cases h
  · cases h
  · cases h
  · exact lt_of_readDigits (by decide) h
  · exact lt_of_readDigits (by decide) h

/-- The characters of an index text that count: no blanks around it and no points. -/
def significant (s : String) : List Char :=
  (Text.trim s.toList).filter (· ≠ '.')

/-- The index a text names. -/
def parse (s : String) : Except ParseError MessageIndex :=
  match h : readNumber (significant s) with
  | .ok n => .ok ⟨n, lt_of_readNumber h⟩
  | .error e => .error e

/-- The index with a given number, if the number is one. -/
def ofNat? (n : Nat) : Option MessageIndex :=
  if h : n < Count.bound then some ⟨n, h⟩ else none

end MessageIndex

end Scrollback
