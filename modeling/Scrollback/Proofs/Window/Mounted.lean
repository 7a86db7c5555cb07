import Scrollback.Window.Mounted
/-!
# The range around a viewport

The range that is mounted holds the visible messages, and the overscan beyond either end of them as
far as messages are loaded. So its length is bounded by what the screen shows, however many messages
are loaded, and the range moves toward older messages with the view.

## Main definitions

* `Mounted.bottom` — the position of the newest visible message.
* `Mounted.Surrounds` — a range holds the visible messages and the overscan around them.

## Main statements

* `Mounted.around_eq_ok` — when there is a range around a viewport, and where it begins and ends.
* `Mounted.around_surrounds` — the range surrounds the visible messages, wherever the view is.
-/

namespace Scrollback.Mounted

variable {size offset further visible rows overscan p : Nat} {m m' : Mounted}

/-- The position of the newest visible message. A view that is further from the end than there are
messages shows the oldest one. -/
def bottom (size offset : Nat) : Nat := size - 1 - min offset (size - 1)

theorem bottom_lt (hsize : size ≠ 0) (offset : Nat) : bottom size offset < size := by
  rw [bottom]
  omega

/-- The further a view is from the end, the older is the newest message that it shows. -/
theorem bottom_anti (size : Nat) (h : offset ≤ further) :
    bottom size further ≤ bottom size offset := by
  rw [bottom, bottom]
  omega

instance : Membership Nat Mounted := ⟨fun m p => m.start ≤ p ∧ p < m.stop⟩

theorem mem_iff : p ∈ m ↔ m.start ≤ p ∧ p < m.stop := Iff.rfl

/-! ## Where the range begins and ends -/

/-- Where nothing is loaded, nothing is mounted. -/
theorem around_zero (offset visible overscan : Nat) :
    around 0 offset visible overscan = .ok none := rfl

/-- **The range around a viewport over loaded messages.** There is none only if its end is out of
range before it is cut off at the newest message. -/
theorem around_eq_ok (hsize : size ≠ 0) : around size offset visible overscan = .ok m ↔
    bottom size offset + 1 + overscan < Count.bound ∧
      m = ⟨bottom size offset + 1 - max visible 1 - overscan,
        min (bottom size offset + 1 + overscan) size⟩ := by
  rw [around, if_neg hsize, Checked.bind_eq_ok]
  constructor
  · rintro ⟨stop, hstop, heq⟩
    obtain ⟨hlt, rfl⟩ := Count.add_eq_ok.1 hstop
    cases heq
    exact ⟨hlt, rfl⟩
  · rintro ⟨hlt, rfl⟩
    exact ⟨_, Count.add_eq_ok.2 ⟨hlt, rfl⟩, rfl⟩

theorem exists_around (h : size + overscan < Count.bound) (offset visible : Nat) :
    ∃ m, around size offset visible overscan = .ok m := by
  by_cases hsize : size = 0
  · exact ⟨none, hsize ▸ around_zero offset visible overscan⟩
  · have hbottom := bottom_lt hsize offset
    exact ⟨_, (around_eq_ok hsize).2 ⟨by omega, rfl⟩⟩

/-- The range lies within the loaded messages. -/
theorem le_of_around (h : around size offset visible overscan = .ok m) :
    m.start ≤ m.stop ∧ m.stop ≤ size := by
  by_cases hsize : size = 0
  · rw [hsize, around_zero] at h
    cases h
    exact ⟨Nat.le_refl 0, Nat.zero_le size⟩
  · have hbottom := bottom_lt hsize offset
    obtain ⟨-, rfl⟩ := (around_eq_ok hsize).1 h
    dsimp only
    omega

/-- The range of a viewport over loaded messages is never empty. -/
theorem start_lt_stop (hsize : size ≠ 0) (h : around size offset visible overscan = .ok m) :
    m.start < m.stop := by
  have hbottom := bottom_lt hsize offset
  obtain ⟨-, rfl⟩ := (around_eq_ok hsize).1 h
  dsimp only
  omega

theorem isEmpty_iff (h : around size offset visible overscan = .ok m) :
    m.isEmpty = true ↔ size = 0 := by
  rw [isEmpty, beq_iff_eq]
  constructor
  · intro hempty
    by_cases hsize : size = 0
    · exact hsize
    · have hlt := start_lt_stop hsize h
      omega
  · rintro rfl
    cases h
    rfl

/-- The height does not bear on where a range ends, and a lower list mounts no older messages. -/
theorem exists_around_rows (h : around size offset visible overscan = .ok m) (rows : Nat) :
    ∃ m', around size offset rows overscan = .ok m' ∧ m'.stop = m.stop ∧
      (rows ≤ visible → m.start ≤ m'.start) := by
  by_cases hsize : size = 0
  · rw [hsize, around_zero] at h ⊢
    exact ⟨m, h, rfl, fun _ => Nat.le_refl _⟩
  · obtain ⟨hlt, rfl⟩ := (around_eq_ok hsize).1 h
    refine ⟨_, (around_eq_ok hsize).2 ⟨hlt, rfl⟩, rfl, fun hrows => ?_⟩
    dsimp only
    omega

/-- Scrolling toward older messages brings neither end of the range nearer to the newest one. -/
theorem le_of_offset_le (hle : offset ≤ further)
    (h : around size offset visible overscan = .ok m)
    (h' : around size further visible overscan = .ok m') :
    m'.start ≤ m.start ∧ m'.stop ≤ m.stop := by
  by_cases hsize : size = 0
  · rw [hsize, around_zero] at h h'
    cases h
    cases h'
    exact ⟨Nat.le_refl 0, Nat.le_refl 0⟩
  · have hbottom := bottom_anti size hle
    obtain ⟨-, rfl⟩ := (around_eq_ok hsize).1 h
    obtain ⟨-, rfl⟩ := (around_eq_ok hsize).1 h'
    dsimp only
    omega

/-! ## What the range holds -/

/-- Of so many loaded messages, the range holds those that are visible above the one at `bottom`,
and the overscan beyond either end of them. -/
structure Surrounds (m : Mounted) (size bottom visible overscan : Nat) : Prop where
  /-- It begins at the newest visible message at the latest. -/
  start_le : m.start ≤ bottom
  /-- It ends behind that one. -/
  lt_stop : bottom < m.stop
  /-- It ends where the loaded messages end, at the latest. -/
  stop_le : m.stop ≤ size
  /-- It holds all that is visible. -/
  mem : ∀ p, bottom + 1 - visible ≤ p → p ≤ bottom → p ∈ m
  /-- It reaches the overscan above what is visible, or the oldest message. -/
  above : m.start + overscan = bottom + 1 - visible ∨
    m.start = 0 ∧ bottom + 1 - visible ≤ overscan
  /-- It reaches the overscan below what is visible, or the newest message. -/
  below : m.stop = bottom + 1 + overscan ∨ m.stop = size ∧ size ≤ bottom + 1 + overscan

theorem surrounds_of_around (hvisible : 1 ≤ visible) (hsize : size ≠ 0)
    (h : around size offset visible overscan = .ok m) :
    m.Surrounds size (bottom size offset) visible overscan := by
  have hbottom := bottom_lt hsize offset
  obtain ⟨-, rfl⟩ := (around_eq_ok hsize).1 h
  rw [Nat.max_eq_left hvisible]
  constructor
  case mem =>
    intro p htop hp
    rw [mem_iff]
    dsimp only
    omega
  all_goals
    dsimp only
    omega

/-- What surrounds the visible messages is no longer than these and the overscan on both sides. -/
theorem Surrounds.length_le {bottom : Nat} (h : m.Surrounds size bottom visible overscan) :
    ∃ n, m.length = .ok n ∧ n ≤ visible + 2 * overscan := by
  have hstart := h.start_le
  have hstop := h.lt_stop
  refine ⟨m.stop - m.start, Count.sub_eq_ok.2 ⟨by omega, rfl⟩, ?_⟩
  rcases h.above with habove | ⟨habove, hclipped⟩ <;> rcases h.below with hbelow | ⟨hbelow, hend⟩ <;>
    omega

/-- **The mounted range surrounds what is visible.** As long as the overscan beyond the loaded
messages is a count, there is a range for every offset and height. It is empty just if nothing is
loaded, and its length is bounded by the height and the overscan alone. Over loaded messages it holds
the newest visible one and all that are visible above it, and it reaches exactly the overscan beyond
them on either side, unless the loaded messages end before. Scrolling toward older messages never
brings either end of it nearer to the newest one. -/
theorem around_surrounds (hvisible : 1 ≤ visible) (hsum : size + overscan < Count.bound)
    (offset : Nat) :
    ∃ m, around size offset visible overscan = .ok m ∧ (m.isEmpty = true ↔ size = 0) ∧
      (size ≠ 0 → m.Surrounds size (size - 1 - min offset (size - 1)) visible overscan) ∧
      (∃ n, m.length = .ok n ∧ n ≤ visible + 2 * overscan) ∧
      ∀ further, offset ≤ further → ∃ m', around size further visible overscan = .ok m' ∧
        m'.start ≤ m.start ∧ m'.stop ≤ m.stop := by
  obtain ⟨m, hm⟩ := exists_around hsum offset visible
  refine ⟨m, hm, isEmpty_iff hm, fun hsize => surrounds_of_around hvisible hsize hm, ?_, ?_⟩
  · by_cases hsize : size = 0
    · subst hsize
      cases hm
      exact ⟨0, rfl, Nat.zero_le _⟩
    · exact (surrounds_of_around hvisible hsize hm).length_le
  · intro further hle
    obtain ⟨m', hm'⟩ := exists_around hsum further visible
    exact ⟨m', hm', le_of_offset_le hle hm hm'⟩

/-- Twenty rows that were scrolled beyond fifty messages show the oldest one, and ten newer ones are
mounted below it. -/
theorem around_surrounds_oldest : around 50 500 20 10 = .ok ⟨0, 11⟩ ∧
    (⟨0, 11⟩ : Mounted).Surrounds 50 0 20 10 ∧ ∃ m', around 50 501 20 10 = .ok m' ∧ m'.stop ≤ 11 := by
  have hm : around 50 500 20 10 = .ok ⟨0, 11⟩ := rfl
  obtain ⟨m, hm', -, hsurrounds, -, hfurther⟩ :=
    @around_surrounds 50 20 10 (by decide) (by decide) 500
  cases hm.symm.trans hm'
  obtain ⟨m', hm', -, hstop⟩ := hfurther 501 (by decide)
  exact ⟨hm, hsurrounds (by decide), m', hm', hstop⟩

end Scrollback.Mounted
