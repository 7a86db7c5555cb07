import Mathlib.Algebra.Group.Nat.Defs
import Scrollback.Text.Blank
import Scrollback.Text.Decimal
/-!
# Digits that are read back

A run of digits is read up to its end: as far as the reader takes digits, or to the first character
that is none. Zeros in front do not change the number, so a number that was filled up to a width is
read back.

## Main statements

* `Text.number?_append` — a run of digits is read as the number that it writes.
* `Text.number?_padded` — a number in a field of its width is read back.
-/

namespace Scrollback.Text

variable {p : Char → Bool} {cs rest : List Char} {c : Char} {limit width n : Nat}

/-! ## Text without characters of a class around it -/

theorem dropWhile_eq_self (hfirst : ∀ c ∈ cs.head?, p c = false) : cs.dropWhile p = cs := by
  cases cs with
  | nil => rfl
  | cons c cs =>
    have hc : p c = false := hfirst c rfl
    rw [List.dropWhile_cons, hc, if_neg Bool.false_ne_true]

/-- Text that neither begins nor ends with a character of a class loses nothing when characters of
the class are dropped around it. -/
theorem dropWhile_around (hfirst : ∀ c ∈ cs.head?, p c = false)
    (hlast : ∀ c ∈ cs.getLast?, p c = false) :
    ((cs.dropWhile p).reverse.dropWhile p).reverse = cs := by
  rw [dropWhile_eq_self hfirst, dropWhile_eq_self, List.reverse_reverse]
  rwa [List.head?_reverse]

/-! ## Digits -/

theorem digit?_of_isDigit (h : c.isDigit = true) : digit? c = some (c.toNat - '0'.toNat) :=
  if_pos (Char.isDigit_iff_toNat.1 h)

theorem isDigit_of_digit? {d : Nat} (h : digit? c = some d) : c.isDigit = true := by
  rw [digit?] at h
  split at h
  · next hc => exact Char.isDigit_iff_toNat.2 hc
  · cases h

theorem isBlank_of_isDigit (h : c.isDigit = true) : isBlank c = false := by
  obtain ⟨hlo, hhi⟩ := Char.isDigit_iff_toNat.1 h
  have hlo : 48 ≤ c.toNat := hlo
  have hhi : c.toNat ≤ 57 := hhi
  simp only [isBlank, Bool.or_eq_false_iff, Bool.and_eq_false_iff, beq_eq_false_iff_ne,
    decide_eq_false_iff_not]
  omega

theorem isDigit_of_mem_digits (h : c ∈ digits n) : c.isDigit = true :=
  Nat.isDigit_of_mem_toDigits (by decide) (by decide) h

/-- There are no blanks around the digits of a number. -/
theorem trim_digits (n : Nat) : trim (digits n) = digits n :=
  dropWhile_around
    (fun _ hc => isBlank_of_isDigit (isDigit_of_mem_digits (List.mem_of_mem_head? hc)))
    (fun _ hc => isBlank_of_isDigit (isDigit_of_mem_digits (List.mem_of_mem_getLast? hc)))

/-- A run of digits loses no blanks, whatever follows it. -/
theorem trimStart_append_of_isDigit (hdigits : ∀ c ∈ cs, c.isDigit = true) (hne : cs ≠ [])
    (rest : List Char) : trimStart (cs ++ rest) = cs ++ rest := by
  obtain ⟨c, cs, rfl⟩ := List.exists_cons_of_ne_nil hne
  refine dropWhile_eq_self fun d hd => ?_
  cases hd
  exact isBlank_of_isDigit (hdigits c (List.mem_cons_self ..))

/-! ## Runs of digits -/

/-- A reader of digits stops where a run of them ends. -/
theorem takeDigits_append (hdigits : ∀ c ∈ cs, c.isDigit = true) (hlimit : cs.length ≤ limit)
    (hend : cs.length = limit ∨ ∀ c ∈ rest.head?, digit? c = none) :
    takeDigits limit (cs ++ rest) = (cs.map fun c => c.toNat - '0'.toNat, rest) := by
  induction cs generalizing limit with
  | nil =>
    cases limit with
    | zero => rfl
    | succ limit =>
      cases rest with
      | nil => rfl
      | cons c rest =>
        have hc : digit? c = none := by simpa using hend
        simp [takeDigits, hc]
  | cons c cs ih =>
    obtain ⟨hc, hcs⟩ := List.forall_mem_cons.1 hdigits
    cases limit with
    | zero => simp at hlimit
    | succ limit =>
      simp only [List.length_cons, Nat.add_le_add_iff_right,
        Nat.add_right_cancel_iff] at hlimit hend
      simp [takeDigits, digit?_of_isDigit hc, ih hcs hlimit hend]

theorem ofDigits_map (cs : List Char) :
    ofDigits (cs.map fun c => c.toNat - '0'.toNat) = Nat.ofDigitChars 10 cs 0 := by
  simp only [ofDigits, List.foldl_map, Nat.ofDigitChars, Nat.mul_comm]

/-- **A run of digits is read as the number that it writes.** -/
theorem number?_append (hdigits : ∀ c ∈ cs, c.isDigit = true) (hne : cs ≠ [])
    (hlimit : cs.length ≤ limit)
    (hend : cs.length = limit ∨ ∀ c ∈ rest.head?, digit? c = none) :
    number? limit (cs ++ rest) = some (Nat.ofDigitChars 10 cs 0, rest) := by
  rw [number?, takeDigits_append hdigits hlimit hend, ← ofDigits_map]
  cases cs with
  | nil => exact absurd rfl hne
  | cons c cs => rfl

theorem digit?_lt {d : Nat} (h : digit? c = some d) : d < 10 := by
  rw [digit?] at h
  split at h
  · next hc =>
    have hlow : '0'.toNat ≤ c.toNat := hc.1
    have hhigh : c.toNat ≤ '9'.toNat := hc.2
    have hten : '9'.toNat - '0'.toNat < 10 := by decide
    cases h
    omega
  · cases h

theorem takeDigits_le (limit : Nat) (cs : List Char) :
    (takeDigits limit cs).1.length ≤ limit ∧ ∀ d ∈ (takeDigits limit cs).1, d < 10 := by
  fun_induction takeDigits limit cs with
  | case1 cs => simp
  | case2 limit => simp
  | case3 limit c cs hc => simp
  | case4 limit c cs d hd ds rest heq ih =>
    rw [heq] at ih
    exact ⟨Nat.succ_le_succ ih.1, List.forall_mem_cons.2 ⟨digit?_lt hd, ih.2⟩⟩

/-- Digits that are read behind others stay below the next number of so many digits. -/
theorem foldl_digits_lt {ds : List Nat} (hds : ∀ d ∈ ds, d < 10) (n : Nat) :
    ds.foldl (fun n d => n * 10 + d) n < (n + 1) * 10 ^ ds.length := by
  induction ds generalizing n with
  | nil => simp
  | cons d ds ih =>
    obtain ⟨hd, hds⟩ := List.forall_mem_cons.1 hds
    calc List.foldl (fun n d => n * 10 + d) (n * 10 + d) ds
        < (n * 10 + d + 1) * 10 ^ ds.length := ih hds _
      _ ≤ (n + 1) * 10 * 10 ^ ds.length := Nat.mul_le_mul_right _ (by omega)
      _ = (n + 1) * 10 ^ (ds.length + 1) := by rw [Nat.mul_assoc, Nat.pow_succ']

theorem ofDigits_lt {ds : List Nat} (hds : ∀ d ∈ ds, d < 10) : ofDigits ds < 10 ^ ds.length := by
  have hlt := foldl_digits_lt hds 0
  rwa [Nat.zero_add, Nat.one_mul] at hlt

/-! ## Numbers that are filled up -/

theorem isDigit_of_mem_padded (h : c ∈ padded width n) : c.isDigit = true := by
  rw [padded, List.mem_append] at h
  cases h with
  | inl hzero =>
    obtain rfl := List.eq_of_mem_replicate hzero
    decide
  | inr hdigit => exact isDigit_of_mem_digits hdigit

theorem padded_ne_nil (width n : Nat) : padded width n ≠ [] := by
  simp [padded, digits]

/-- Zeros in front do not change a number. -/
theorem ofDigitChars_padded (width n : Nat) : Nat.ofDigitChars 10 (padded width n) 0 = n := by
  simp [padded, digits, Nat.ofDigitChars_append]

theorem length_padded (hwidth : 0 < width) (hn : n < 10 ^ width) :
    (padded width n).length = width := by
  have hlength : (digits n).length ≤ width := (Nat.length_toDigits_le_iff (by decide) hwidth).2 hn
  simp [padded, hlength]

/-- **A number in a field of its width is read back**, whatever follows. -/
theorem number?_padded (hwidth : 0 < width) (hn : n < 10 ^ width) (rest : List Char) :
    number? width (padded width n ++ rest) = some (n, rest) := by
  have hlength := length_padded hwidth hn
  rw [number?_append (fun c => isDigit_of_mem_padded) (padded_ne_nil width n)
    (Nat.le_of_eq hlength) (.inl hlength), ofDigitChars_padded]

theorem trimStart_padded (width n : Nat) (rest : List Char) :
    trimStart (padded width n ++ rest) = padded width n ++ rest :=
  trimStart_append_of_isDigit (fun _ => isDigit_of_mem_padded) (padded_ne_nil width n) rest

end Scrollback.Text
