import Scrollback.Message.Index
import Scrollback.Proofs.Text.Blank
/-!
# Indices in decimal

Digits are read as the number that they write, up to the largest index. So the digits of an index
name that index, and neither the blanks that are dropped around a text nor the points that are
passed over take anything from them. Nothing else names an index: what counts in a text is a plus sign
at most and at least one digit.

## Main definitions

* `MessageIndex.Writes` — the texts that are read as a number.

## Main statements

* `MessageIndex.readDigits_of_isDigit` — digits are read as their value, if that is in range.
* `MessageIndex.parse_digits` — the digits of an index name it.
* `MessageIndex.readNumber_eq_ok_iff` — what is read as a number is what writes one in range.
* `MessageIndex.parse_writes` — the texts that name an index, and which one.
-/

namespace Scrollback

namespace MessageIndex

variable {cs : List Char} {value n : Nat}

/-! ## Digits -/

/-- A number does not get smaller by further digits. -/
theorem le_ofDigitChars (cs : List Char) (value : Nat) : value ≤ Nat.ofDigitChars 10 cs value := by
  rw [Nat.ofDigitChars_eq_ofDigitChars_zero]
  calc value ≤ 10 ^ cs.length * value := Nat.le_mul_of_pos_left value (Nat.pow_pos (by decide))
    _ ≤ 10 ^ cs.length * value + Nat.ofDigitChars 10 cs 0 := Nat.le_add_right _ _

/-- **Digits are read as the number that they write**, if it is in range. -/
theorem readDigits_of_isDigit (hdigits : ∀ c ∈ cs, c.isDigit = true) (hvalue : value < Count.bound) :
    readDigits value cs =
      if Nat.ofDigitChars 10 cs value < Count.bound then .ok (Nat.ofDigitChars 10 cs value)
      else .error .tooLarge := by
  induction cs generalizing value with
  | nil => rw [readDigits, Nat.ofDigitChars_nil, if_pos hvalue]
  | cons c cs ih =>
    obtain ⟨hc, hcs⟩ := List.forall_mem_cons.1 hdigits
    simp only [readDigits, Text.digit?_of_isDigit hc, Nat.ofDigitChars_cons, Nat.mul_comm 10]
    split
    · next hlt => exact ih hcs hlt
    · next hge =>
      have hle := le_ofDigitChars cs (value * 10 + (c.toNat - '0'.toNat))
      rw [if_neg (by omega)]

/-- Only digits are read as a number. -/
theorem isDigit_of_readDigits (h : readDigits value cs = .ok n) :
    ∀ c ∈ cs, c.isDigit = true := by
  induction cs generalizing value with
  | nil => exact fun c hc => absurd hc List.not_mem_nil
  | cons c cs ih =>
    rw [readDigits] at h
    split at h
    · cases h
    · next d hd =>
      split at h
      · exact List.forall_mem_cons.2 ⟨Text.isDigit_of_digit? hd, ih h⟩
      · cases h

/-- **What is read as digits** are digits whose value is in range. -/
theorem readDigits_eq_ok_iff (hvalue : value < Count.bound) :
    readDigits value cs = .ok n ↔
      (∀ c ∈ cs, c.isDigit = true) ∧ Nat.ofDigitChars 10 cs value = n ∧ n < Count.bound := by
  constructor
  · intro h
    have hdigits := isDigit_of_readDigits h
    rw [readDigits_of_isDigit hdigits hvalue] at h
    split at h
    · next hlt =>
      cases h
      exact ⟨hdigits, rfl, hlt⟩
    · cases h
  · rintro ⟨hdigits, rfl, hlt⟩
    rw [readDigits_of_isDigit hdigits hvalue, if_pos hlt]

/-! ## Numbers -/

/-- The characters write a number: at most a plus sign, then at least one digit, and this is the
value of the digits. -/
def Writes (cs : List Char) (n : Nat) : Prop :=
  ∃ ds, (cs = ds ∨ cs = '+' :: ds) ∧ ds ≠ [] ∧ (∀ c ∈ ds, c.isDigit = true) ∧
    Nat.ofDigitChars 10 ds 0 = n

theorem writes_plus_iff : Writes ('+' :: cs) n ↔
    cs ≠ [] ∧ (∀ c ∈ cs, c.isDigit = true) ∧ Nat.ofDigitChars 10 cs 0 = n := by
  constructor
  · rintro ⟨ds, rfl | hcs, hne, hdigits, hn⟩
    · exact absurd (hdigits '+' (List.mem_cons_self ..)) (by decide)
    · obtain rfl := List.tail_eq_of_cons_eq hcs
      exact ⟨hne, hdigits, hn⟩
  · rintro ⟨hne, hdigits, hn⟩
    exact ⟨cs, .inr rfl, hne, hdigits, hn⟩

theorem writes_iff_of_ne (h : ∀ ds, cs ≠ '+' :: ds) : Writes cs n ↔
    cs ≠ [] ∧ (∀ c ∈ cs, c.isDigit = true) ∧ Nat.ofDigitChars 10 cs 0 = n := by
  constructor
  · rintro ⟨ds, rfl | hcs, hne, hdigits, hn⟩
    · exact ⟨hne, hdigits, hn⟩
    · exact absurd hcs (h ds)
  · rintro ⟨hne, hdigits, hn⟩
    exact ⟨cs, .inl rfl, hne, hdigits, hn⟩

/-- **What is read as a number** is what writes one in range. -/
theorem readNumber_eq_ok_iff :
    readNumber cs = .ok n ↔ Writes cs n ∧ n < Count.bound := by
  have hzero : 0 < Count.bound := by decide
  unfold readNumber
  split
  case h_1 =>
    rw [writes_iff_of_ne (by simp)]
    simp
  case h_2 =>
    rw [writes_plus_iff]
    simp
  case h_3 =>
    rw [writes_iff_of_ne (by simp)]
    simp
  case h_4 cs hne =>
    rw [readDigits_eq_ok_iff hzero, writes_plus_iff, and_iff_right hne, and_assoc]
  case h_5 hnil hplus hminus hne =>
    rw [readDigits_eq_ok_iff hzero, writes_iff_of_ne hne, and_iff_right hnil, and_assoc]

/-- The digits of an index write it. -/
theorem writes_digits (n : Nat) : Writes (Text.digits n) n :=
  ⟨Text.digits n, .inl rfl, Nat.toDigits_ne_nil, fun _ => Text.isDigit_of_mem_digits,
    Nat.ofDigitChars_ten_toDigits⟩

/-! ## Indices -/

/-- A text names an index if what counts in it is read as its number. -/
theorem parse_eq_ok_iff {s : String} {i : MessageIndex} :
    parse s = .ok i ↔ readNumber (significant s) = .ok i.seq := by
  unfold parse
  split
  · next n hn =>
    simp only [hn, Except.ok.injEq, MessageIndex.ext_iff]
  · next e he =>
    simp [he]

theorem significant_digits (n : Nat) :
    significant (String.ofList (Text.digits n)) = Text.digits n := by
  rw [significant, String.toList_ofList, Text.trim_digits, List.filter_eq_self]
  intro c hc
  have hdigit := Text.isDigit_of_mem_digits hc
  refine decide_eq_true ?_
  rintro rfl
  exact absurd hdigit (by decide)

/-- **The digits of an index name it.** -/
theorem parse_digits (i : MessageIndex) : parse (String.ofList (Text.digits i.seq)) = .ok i := by
  rw [parse_eq_ok_iff, significant_digits, readNumber_eq_ok_iff]
  exact ⟨writes_digits i.seq, i.seq_lt⟩

theorem significant_of_trims {s : String} {core : List Char} (h : Text.Trims s.toList core) :
    significant s = core.filter (· ≠ '.') := by
  rw [significant, h.trim_eq]

theorem toList_toString (i : MessageIndex) : (toString i).toList = Text.digits i.seq :=
  String.toList_ofList

/-- Points between the digits of an index make no blanks at its ends. -/
theorem isBlank_of_mem_pointed {i : MessageIndex} {body : List Char} {c : Char}
    (h : body.filter (· ≠ '.') = (toString i).toList) (hc : c ∈ body) : Text.isBlank c = false := by
  by_cases hpoint : c = '.'
  · rw [hpoint]
    decide
  · have hmem : c ∈ body.filter (· ≠ '.') := List.mem_filter.2 ⟨hc, decide_eq_true hpoint⟩
    rw [h, toList_toString] at hmem
    exact Text.isBlank_of_isDigit (Text.isDigit_of_mem_digits hmem)

/-- **The texts that name an index.** A text names the index of a number just if this is written by
what remains of the text without the blanks around it and without points, and if it is in range: there
is a plus sign at most, then one digit at least, and nothing else. So an index is read back from its
digits, wherever points are put among them and whatever blanks are put around the whole. -/
theorem parse_writes :
    (∀ s n, (∃ i, parse s = .ok i ∧ i.seq = n) ↔
      ∃ core, Text.Trims s.toList core ∧ Writes (core.filter (· ≠ '.')) n ∧ n ≤ 2 ^ 64 - 1) ∧
    ∀ (i : MessageIndex) (lead body trail : List Char),
      body.filter (· ≠ '.') = (toString i).toList →
      (∀ c ∈ lead, Text.isBlank c = true) → (∀ c ∈ trail, Text.isBlank c = true) →
        parse (String.ofList (lead ++ body ++ trail)) = .ok i := by
  have hlargest : ∀ n, n ≤ 2 ^ 64 - 1 ↔ n < Count.bound := fun n =>
    Nat.le_iff_lt_add_one
  refine ⟨fun s n => ?_, fun i lead body trail hbody hlead htrail => ?_⟩
  · constructor
    · rintro ⟨i, hi, rfl⟩
      have htrims := Text.trims_trim s.toList
      rw [parse_eq_ok_iff, significant_of_trims htrims, readNumber_eq_ok_iff] at hi
      exact ⟨_, htrims, hi.1, (hlargest _).2 i.seq_lt⟩
    · rintro ⟨core, htrims, hwrites, hle⟩
      refine ⟨⟨n, (hlargest n).1 hle⟩, ?_, rfl⟩
      rw [parse_eq_ok_iff, significant_of_trims htrims, readNumber_eq_ok_iff]
      exact ⟨hwrites, (hlargest n).1 hle⟩
  · have htrims : Text.Trims (String.ofList (lead ++ body ++ trail)).toList body :=
      { around := ⟨lead, trail, String.toList_ofList, hlead, htrail⟩
        head := fun c hc => isBlank_of_mem_pointed hbody (List.mem_of_mem_head? hc)
        last := fun c hc => isBlank_of_mem_pointed hbody (List.mem_of_mem_getLast? hc) }
    rw [parse_eq_ok_iff, significant_of_trims htrims, hbody, toList_toString, readNumber_eq_ok_iff]
    exact ⟨writes_digits i.seq, i.seq_lt⟩

/-- The largest index, with a plus sign, zeros in front, and blanks and points of all kinds. -/
theorem parse_writes_largest : ∃ i : MessageIndex, i.seq = 2 ^ 64 - 1 ∧
    parse "\u2003+0.0018446744073709551615\n" = .ok i ∧
      parse (String.ofList (['\u00a0'] ++ "..18446744073.709551615.".toList ++ [' '])) = .ok i := by
  let core := "+0.0018446744073709551615".toList
  have hhead : core.head? = some '+' := by decide +kernel
  have hlast : core.getLast? = some '5' := by decide +kernel
  have htrims : Text.Trims "\u2003+0.0018446744073709551615\n".toList core :=
    { around := ⟨['\u2003'], ['\n'], by decide +kernel, List.forall_mem_singleton.2 (by decide),
        List.forall_mem_singleton.2 (by decide)⟩
      head := fun c hc => by
        cases hhead.symm.trans hc
        decide
      last := fun c hc => by
        cases hlast.symm.trans hc
        decide }
  have hwrites : Writes (core.filter (· ≠ '.')) (2 ^ 64 - 1) :=
    ⟨"00018446744073709551615".toList, .inr (by decide +kernel), by decide +kernel,
      List.all_eq_true.1 (by decide +kernel), by decide +kernel⟩
  obtain ⟨i, hi, hseq⟩ := (parse_writes.1 _ _).2 ⟨core, htrims, hwrites, Nat.le_refl _⟩
  refine ⟨i, hseq, hi, parse_writes.2 i _ _ _ ?_ (List.forall_mem_singleton.2 (by decide))
    (List.forall_mem_singleton.2 (by decide))⟩
  rw [toList_toString, hseq]
  decide +kernel

end MessageIndex

end Scrollback
