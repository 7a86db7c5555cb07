import Scrollback.Proofs.Text.Decimal
import Scrollback.Time.Stamp
/-!
# Time stamps that are read back

Whatever is read as a time stamp is a valid instant: its date exists, its second is one of the day,
and a leap second ends a minute. Each valid instant has one written form, and that is read back as
the instant itself, for every year that dates are kept for, for a leap second, and for a fraction of
any precision.

## Main statements

* `Instant.isValid_of_readChars?` — what is read is a valid instant.
* `Instant.read?_render` — the written form of a valid instant is read back.
* `Instant.exists_read?_iff` — the instants that are read from some text are the valid ones.
-/

namespace Scrollback

/-! ## Neighbouring dates -/

namespace Date

variable {d e : Date}

theorem daysInMonth_pos (y : Int) (m : Nat) : 1 ≤ daysInMonth y m := by
  rw [daysInMonth]
  split
  · split <;> decide
  · split <;> decide

theorem daysInMonth_le (y : Int) (m : Nat) : daysInMonth y m ≤ 31 := by
  rw [daysInMonth]
  split
  · split <;> decide
  · split <;> decide

theorem isValid_of_next? (hd : d.IsValid) (h : d.next? = some e) : e.IsValid := by
  rw [next?] at h
  split at h
  · cases h
    simp only [IsValid] at hd ⊢
    omega
  · split at h
    · have hpos := daysInMonth_pos d.year (d.month + 1)
      cases h
      simp only [IsValid] at hd ⊢
      omega
    · split at h
      · have hpos := daysInMonth_pos (d.year + 1) 1
        cases h
        simp only [IsValid] at hd ⊢
        omega
      · cases h

theorem isValid_of_prev? (hd : d.IsValid) (h : d.prev? = some e) : e.IsValid := by
  rw [prev?] at h
  split at h
  · cases h
    simp only [IsValid] at hd ⊢
    omega
  · split at h
    · have hpos := daysInMonth_pos d.year (d.month - 1)
      cases h
      simp only [IsValid] at hd ⊢
      omega
    · split at h
      · have hlast : daysInMonth (d.year - 1) 12 = 31 := rfl
        cases h
        simp only [IsValid] at hd ⊢
        omega
      · cases h

end Date

namespace Instant

open Text

variable {cs rest : List Char} {t : Instant} {date : Date} {n o : Int} {nanos w : Nat}

/-! ## What is read is valid -/

/-- A second that lies a day at most before or after a date gives an instant of that second of its
minute. -/
theorem isValid_of_ofDaySecond? (hdate : date.IsValid) (hlow : -86400 ≤ n) (hhigh : n < 172800)
    (hnanos : nanos < 2000000000) (hleap : 1000000000 ≤ nanos → n % 60 = 59)
    (h : ofDaySecond? date n nanos = some t) : t.IsValid := by
  rw [ofDaySecond?] at h
  split at h
  · obtain ⟨d, hd, rfl⟩ := Option.map_eq_some_iff.1 h
    exact ⟨Date.isValid_of_prev? hdate hd, by simp only; omega, hnanos, by simp only; omega⟩
  · split at h
    · cases h
      exact ⟨hdate, by simp only; omega, hnanos, by simp only; omega⟩
    · obtain ⟨d, hd, rfl⟩ := Option.map_eq_some_iff.1 h
      exact ⟨Date.isValid_of_next? hdate hd, by simp only; omega, hnanos, by simp only; omega⟩

/-- An offset is given in minutes. -/
theorem zone?_mod (h : zone? cs = some (o, rest)) : o % 60 = 0 := by
  have hbody : ∀ {cs rest : List Char} {m : Nat}, offsetBody? cs = some (m, rest) → m % 60 = 0 := by
    intro cs rest m h
    simp only [offsetBody?, Option.bind_eq_bind, Option.bind_eq_some_iff] at h
    obtain ⟨hours, -, minutes, -, h⟩ := h
    split at h
    · cases h
      omega
    · cases h
  rw [zone?.eq_def] at h
  split at h
  · cases h
  · split at h
    · cases h
      rfl
    · split at h
      · obtain ⟨⟨m, r⟩, hm, heq⟩ := Option.map_eq_some_iff.1 h
        cases heq
        have := hbody hm
        omega
      · split at h
        · obtain ⟨⟨m, r⟩, hm, heq⟩ := Option.map_eq_some_iff.1 h
          cases heq
          have := hbody hm
          omega
        · split at h
          · split at h
            · cases h
              rfl
            · cases h
          · cases h

/-- Digits after the ninth do not count. -/
theorem fraction?_lt (h : fraction? cs = some (w, rest)) : w < 1000000000 := by
  rw [fraction?.eq_def] at h
  split at h
  · next cs =>
    obtain ⟨hlength, hdigits⟩ := takeDigits_le 9 cs
    split at h
    · cases h
    · next ds rest _ heq =>
      cases h
      rw [heq] at hlength hdigits
      calc ofDigits ds * Nat.pow 10 (9 - ds.length)
          < 10 ^ ds.length * 10 ^ (9 - ds.length) :=
            Nat.mul_lt_mul_of_pos_right (ofDigits_lt hdigits) (Nat.pow_pos (by decide))
        _ = 10 ^ 9 := by rw [← Nat.pow_add, Nat.add_sub_cancel' hlength]
  · cases h
    decide

/-- **What is read is a valid instant.** -/
theorem isValid_of_readChars? (h : readChars? cs = some t) : t.IsValid := by
  -- the parts are read one after the other; of most it does not matter what is read
  obtain ⟨⟨year, cs⟩, -, h⟩ := Option.bind_eq_some_iff.1 h
  obtain ⟨cs, -, h⟩ := Option.bind_eq_some_iff.1 h
  obtain ⟨⟨month, cs⟩, -, h⟩ := Option.bind_eq_some_iff.1 h
  obtain ⟨cs, -, h⟩ := Option.bind_eq_some_iff.1 h
  obtain ⟨⟨day, cs⟩, -, h⟩ := Option.bind_eq_some_iff.1 h
  obtain ⟨cs, -, h⟩ := Option.bind_eq_some_iff.1 h
  obtain ⟨⟨hour, cs⟩, -, h⟩ := Option.bind_eq_some_iff.1 h
  obtain ⟨cs, -, h⟩ := Option.bind_eq_some_iff.1 h
  obtain ⟨⟨minute, cs⟩, -, h⟩ := Option.bind_eq_some_iff.1 h
  obtain ⟨cs, -, h⟩ := Option.bind_eq_some_iff.1 h
  obtain ⟨⟨second, cs⟩, -, h⟩ := Option.bind_eq_some_iff.1 h
  obtain ⟨⟨nanos, cs⟩, hnanos, h⟩ := Option.bind_eq_some_iff.1 h
  obtain ⟨⟨offset, cs⟩, hoffset, h⟩ := Option.bind_eq_some_iff.1 h
  obtain ⟨date, hdate, h⟩ := Option.bind_eq_some_iff.1 h
  dsimp only at h
  have hlt := fraction?_lt hnanos
  have hmod := zone?_mod hoffset
  split at h
  · next hrange =>
    obtain ⟨-, hhour, hminute, hsecond, hnatAbs⟩ := hrange
    refine isValid_of_ofDaySecond? (Date.isValid_of_of? hdate) ?_ ?_ ?_ ?_ h
    · split <;> omega
    · split <;> omega
    · split <;> omega
    · split <;> omega
  · cases h

/-! ## What is written is read back -/

/-- A field is read back, and the character after it is the next to be read. -/
theorem field?_padded (hn : w < 100) (rest : List Char) :
    field? 2 (padded 2 w ++ rest) = some (w, rest) := by
  rw [field?, trimStart_padded, number?_padded (by decide) hn]

theorem expect?_cons {c : Char} (hc : isBlank c = false) (rest : List Char) :
    expect? c (c :: rest) = some rest := by
  simp [expect?, trimStart, hc]

/-- The digits of a year end where the hyphen behind them stands. -/
theorem number?_padded_hyphen {limit : Nat} (hlimit : (padded 4 w).length ≤ limit)
    (rest : List Char) : number? limit (padded 4 w ++ '-' :: rest) = some (w, '-' :: rest) := by
  rw [number?_append (fun _ => isDigit_of_mem_padded) (padded_ne_nil 4 w) hlimit
    (.inr (by simp [digit?])), ofDigitChars_padded]

theorem year?_minus (w : Nat) (rest : List Char) :
    year? ('-' :: (padded 4 w ++ '-' :: rest)) = some (-(w : Int), '-' :: rest) := by
  have hlimit : (padded 4 w).length ≤ (padded 4 w ++ '-' :: rest).length := by simp
  rw [year?, trimStart, dropWhile_eq_self (by simp [isBlank])]
  simp only [number?_padded_hyphen hlimit, Option.map_some]

theorem year?_plus (w : Nat) (rest : List Char) :
    year? ('+' :: (padded 4 w ++ '-' :: rest)) = some ((w : Int), '-' :: rest) := by
  have hlimit : (padded 4 w).length ≤ (padded 4 w ++ '-' :: rest).length := by simp
  rw [year?, trimStart, dropWhile_eq_self (by simp [isBlank])]
  simp only [number?_padded_hyphen hlimit, Option.map_some]

theorem year?_plain (hw : w < 10000) (rest : List Char) :
    year? (padded 4 w ++ '-' :: rest) = some ((w : Int), '-' :: rest) := by
  have hlength : (padded 4 w).length = 4 := length_padded (by decide) hw
  have hnumber := number?_padded_hyphen (Nat.le_of_eq hlength) rest
  -- the first character is a digit, so it is no sign
  obtain ⟨c, cs, hcs⟩ := List.exists_cons_of_ne_nil (padded_ne_nil 4 w)
  have hmem : c ∈ padded 4 w := by simp [hcs]
  have hdigit := isDigit_of_mem_padded hmem
  have hminus : c ≠ '-' := by
    rintro rfl
    simp at hdigit
  have hplus : c ≠ '+' := by
    rintro rfl
    simp at hdigit
  rw [year?, trimStart_padded]
  rw [hcs, List.cons_append] at hnumber ⊢
  simp [hminus, hplus, hnumber]

/-- A year is read back, with a sign or without. -/
theorem year?_renderYear (y : Int) (rest : List Char) :
    year? (renderYear y ++ '-' :: rest) = some (y, '-' :: rest) := by
  rw [renderYear]
  by_cases hplain : 0 ≤ y ∧ y ≤ 9999
  · have hy : ((y.toNat : Nat) : Int) = y := Int.toNat_of_nonneg hplain.1
    rw [if_pos hplain, year?_plain (by omega), hy]
  · by_cases hneg : y < 0
    · have hy : -((y.natAbs : Nat) : Int) = y := by omega
      rw [if_neg hplain, if_pos hneg, List.cons_append, year?_minus, hy]
    · have hy : ((y.natAbs : Nat) : Int) = y := by omega
      rw [if_neg hplain, if_neg hneg, List.cons_append, year?_plus, hy]

/-- So many digits after a point are read as that part of a second. -/
theorem fraction?_padded {width : Nat} (hpos : 0 < width) (hwidth : width ≤ 9)
    (hw : w < 10 ^ width) :
    fraction? ('.' :: (padded width w ++ ['Z'])) = some (w * 10 ^ (9 - width), ['Z']) := by
  have hlength := length_padded hpos hw
  have htake : takeDigits 9 (padded width w ++ ['Z']) =
      ((padded width w).map fun c => c.toNat - '0'.toNat, ['Z']) :=
    takeDigits_append (fun _ => isDigit_of_mem_padded) (by omega) (.inr (by simp [digit?]))
  rw [fraction?]
  simp only [htake]
  split
  · next heq => simp [padded_ne_nil] at heq
  · next heq =>
    cases heq
    rw [List.length_map, hlength, ofDigits_map, ofDigitChars_padded]
    simp [digit?]

/-- A fraction is read back, with as many digits as it takes. -/
theorem fraction?_renderFraction (hw : w < 1000000000) :
    fraction? (renderFraction w ++ ['Z']) = some (w, ['Z']) := by
  rw [renderFraction]
  by_cases hzero : w = 0
  · subst hzero
    rfl
  · by_cases hmilli : w % 1000000 = 0
    · rw [if_neg hzero, if_pos hmilli, List.cons_append,
        fraction?_padded (by decide) (by decide) (by omega)]
      simp only [Option.some.injEq, Prod.mk.injEq, and_true]
      omega
    · by_cases hmicro : w % 1000 = 0
      · rw [if_neg hzero, if_neg hmilli, if_pos hmicro, List.cons_append,
          fraction?_padded (by decide) (by decide) (by omega)]
        simp only [Option.some.injEq, Prod.mk.injEq, and_true]
        omega
      · rw [if_neg hzero, if_neg hmilli, if_neg hmicro, List.cons_append,
          fraction?_padded (by decide) (by decide) (by omega)]
        simp

/-- **The written form of a valid instant is read back.** -/
theorem readChars?_renderChars (ht : t.IsValid) : readChars? t.renderChars = some t := by
  obtain ⟨hdate, hsecond, hnanos, hleap⟩ := ht
  have hof : Date.of? t.date.year t.date.month t.date.day = some t.date := if_pos hdate
  obtain ⟨-, -, -, hmonth, -, hday⟩ := hdate
  have hdays := Date.daysInMonth_le t.date.year t.date.month
  have hmonth := field?_padded (w := t.date.month) (by omega)
  have hday := field?_padded (w := t.date.day) (by omega)
  have hhour := field?_padded (w := t.second / 3600) (by omega)
  have hminute := field?_padded (w := t.second / 60 % 60) (by omega)
  have hsec := field?_padded (w := t.second % 60 + t.nanos / 1000000000) (by omega)
  have hfraction := fraction?_renderFraction (w := t.nanos % 1000000000) (by omega)
  have hhyphen := expect?_cons (c := '-') (by decide)
  have hcolon := expect?_cons (c := ':') (by decide)
  have hseparator (rest : List Char) : separator? ('T' :: rest) = some rest := rfl
  have hzone : zone? (trimStart ['Z']) = some (0, []) := by decide
  simp only [renderChars, List.append_assoc, List.cons_append]
  refine Option.bind_eq_some_iff.2 ⟨_, year?_renderYear _ _, ?_⟩
  refine Option.bind_eq_some_iff.2 ⟨_, hhyphen _, ?_⟩
  refine Option.bind_eq_some_iff.2 ⟨_, hmonth _, ?_⟩
  refine Option.bind_eq_some_iff.2 ⟨_, hhyphen _, ?_⟩
  refine Option.bind_eq_some_iff.2 ⟨_, hday _, ?_⟩
  refine Option.bind_eq_some_iff.2 ⟨_, hseparator _, ?_⟩
  refine Option.bind_eq_some_iff.2 ⟨_, hhour _, ?_⟩
  refine Option.bind_eq_some_iff.2 ⟨_, hcolon _, ?_⟩
  refine Option.bind_eq_some_iff.2 ⟨_, hminute _, ?_⟩
  refine Option.bind_eq_some_iff.2 ⟨_, hcolon _, ?_⟩
  refine Option.bind_eq_some_iff.2 ⟨_, hsec _, ?_⟩
  refine Option.bind_eq_some_iff.2 ⟨_, hfraction, ?_⟩
  refine Option.bind_eq_some_iff.2 ⟨_, hzone, ?_⟩
  refine Option.bind_eq_some_iff.2 ⟨_, hof, ?_⟩
  dsimp only
  rw [if_pos ⟨rfl, by omega, by omega, by omega, by decide⟩, ofDaySecond?,
    if_neg (by split <;> omega), if_pos (by split <;> omega)]
  refine congrArg some (Instant.ext rfl ?_ ?_)
  · dsimp only
    split <;> omega
  · dsimp only
    split <;> omega

theorem read?_render (ht : t.IsValid) : read? t.render = some t := by
  rw [read?, render, String.toList_ofList, readChars?_renderChars ht]

/-- The instants that are read from some text are the valid ones. -/
theorem exists_read?_iff : (∃ s, read? s = some t) ↔ t.IsValid := by
  constructor
  · rintro ⟨s, hs⟩
    exact isValid_of_readChars? hs
  · intro ht
    exact ⟨t.render, read?_render ht⟩

end Instant

end Scrollback
