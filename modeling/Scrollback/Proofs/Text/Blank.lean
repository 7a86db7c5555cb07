import Mathlib.Data.List.DropRight
import Scrollback.Proofs.Text.Decimal
/-!
# Text without the blanks around it

Trimming takes away the blanks in front of a text and behind it and nothing else: what is left begins
and ends with other characters, and there is only one such part.

## Main definitions

* `Text.Trims` — a part of a text is what remains without the blanks around it.

## Main statements

* `Text.trim_eq_iff` — what trimming leaves.
-/

namespace Scrollback.Text

variable {cs core lead trail : List Char}

/-- The text is its core with blanks around it, and the core neither begins nor ends with one. -/
structure Trims (cs core : List Char) : Prop where
  around : ∃ lead trail, cs = lead ++ core ++ trail ∧
    (∀ c ∈ lead, isBlank c = true) ∧ ∀ c ∈ trail, isBlank c = true
  head : ∀ c ∈ core.head?, isBlank c = false
  last : ∀ c ∈ core.getLast?, isBlank c = false

theorem trimEnd_eq_rdropWhile : trimEnd cs = cs.rdropWhile isBlank := rfl

/-- Blanks in front of a text are dropped. -/
theorem trimStart_append (hlead : ∀ c ∈ lead, isBlank c = true) :
    trimStart (lead ++ cs) = trimStart cs :=
  List.dropWhile_append_of_pos hlead

/-- Blanks behind a text are dropped. -/
theorem trimEnd_append (htrail : ∀ c ∈ trail, isBlank c = true) :
    trimEnd (cs ++ trail) = trimEnd cs := by
  have hreverse : ∀ c ∈ trail.reverse, isBlank c = true := fun c hc =>
    htrail c (List.mem_reverse.1 hc)
  rw [trimEnd, List.reverse_append, List.dropWhile_append_of_pos hreverse, trimEnd]

/-- Around a core that is no blank at either end, all blanks are dropped. -/
theorem Trims.trim_eq (h : Trims cs core) : trim cs = core := by
  obtain ⟨lead, trail, rfl, hlead, htrail⟩ := h.around
  rw [trim, List.append_assoc, trimStart_append hlead]
  cases core with
  | nil =>
    -- the blanks behind are then in front as well
    rw [List.nil_append, trimStart, List.dropWhile_eq_nil_iff.2 htrail]
    rfl
  | cons c core =>
    have hstart : trimStart (c :: core ++ trail) = c :: core ++ trail :=
      dropWhile_eq_self fun d hd => h.head d hd
    rw [hstart, trimEnd_append htrail]
    have haround := dropWhile_around h.head h.last
    rwa [dropWhile_eq_self h.head] at haround

theorem trims_trim (cs : List Char) : Trims cs (trim cs) where
  around := by
    refine ⟨cs.takeWhile isBlank, (trimStart cs).rtakeWhile isBlank, ?_, ?_, ?_⟩
    · rw [List.append_assoc, trim, trimEnd_eq_rdropWhile, List.rdropWhile_append_rtakeWhile,
        trimStart, List.takeWhile_append_dropWhile]
    · exact fun c hc => List.mem_takeWhile_imp hc
    · exact fun c hc => List.mem_rtakeWhile_imp hc
  head := by
    -- what is in front is in front of the text without its leading blanks too
    intro c hc
    obtain ⟨rest, hrest⟩ : trim cs <+: trimStart cs := List.rdropWhile_prefix isBlank _
    have hstart : c ∈ (cs.dropWhile isBlank).head? := by
      rw [← trimStart, ← hrest, List.head?_append, hc, Option.some_or]
      exact rfl
    rw [← List.head_of_mem_head? hstart]
    exact List.head_dropWhile_not isBlank _
  last := by
    intro c hc
    obtain ⟨hne, rfl⟩ := List.mem_getLast?_eq_getLast hc
    exact eq_false_of_ne_true (List.rdropWhile_last_not isBlank _ hne)

/-- **Trimming** leaves what remains of a text without the blanks around it. -/
theorem trim_eq_iff : trim cs = core ↔ Trims cs core :=
  ⟨fun h => h ▸ trims_trim cs, Trims.trim_eq⟩

end Scrollback.Text
