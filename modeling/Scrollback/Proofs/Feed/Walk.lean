import Mathlib.Algebra.Order.Floor.Div
import Scrollback.Proofs.Feed.Span
/-!
# Walking to the ends of the history

A page moves one end of the loaded span on by the length of a page, or as far as there are messages.
Asked for again and again, pages of one direction come to the end of the history there. How many it
takes follows from the number of messages beyond the span, and all but the last promise more.

## Main definitions

* `Feed.beyond` — how many messages of the history lie beyond a span in a direction.
* `Feed.walk` — so many pages of one direction, and what each of them told.

## Main statements

* `Feed.Spans.exists_page` — where a page moves the end of a span to, and what it tells.
* `Feed.Spans.exists_walk` — the same of any number of pages.
* `Feed.pages_exact` — one page, and the pages that lead to an end of the history.
-/

namespace Scrollback.Feed

variable {f g : Feed} {a b m n p : Nat} {dir : Direction}

/-! ## Spans that are moved on -/

/-- How many messages of the history lie beyond a span. -/
def beyond (f : Feed) (a b : Nat) : Direction → Nat
  | .older => a
  | .newer => f.remote.size - b

/-- Where a span starts that was moved on by `n` messages. -/
def startAfter (a n : Nat) : Direction → Nat
  | .older => a - n
  | .newer => a

/-- Where a span stops that was moved on by `n` messages, as far as there are. -/
def stopAfter (f : Feed) (b n : Nat) : Direction → Nat
  | .older => b
  | .newer => min (b + n) f.remote.size

@[simp] theorem startAfter_zero (a : Nat) (dir : Direction) : startAfter a 0 dir = a := by
  cases dir <;> rfl

theorem stopAfter_zero (hb : b ≤ f.remote.size) (dir : Direction) : f.stopAfter b 0 dir = b := by
  cases dir with
  | older => rfl
  | newer => exact Nat.min_eq_left hb

/-- Moving a span on twice is moving it on once. -/
theorem startAfter_add (a m n : Nat) (dir : Direction) :
    startAfter (startAfter a m dir) n dir = startAfter a (m + n) dir := by
  cases dir with
  | older => exact Nat.sub_sub ..
  | newer => rfl

theorem stopAfter_add (f : Feed) (b m n : Nat) (dir : Direction) :
    f.stopAfter (f.stopAfter b m dir) n dir = f.stopAfter b (m + n) dir := by
  cases dir with
  | older => rfl
  | newer =>
    simp only [stopAfter]
    omega

/-- So many messages fewer lie beyond it then. -/
theorem beyond_after (f : Feed) (a b m : Nat) (dir : Direction) :
    f.beyond (startAfter a m dir) (f.stopAfter b m dir) dir = f.beyond a b dir - m := by
  cases dir with
  | older => rfl
  | newer =>
    simp only [beyond, stopAfter]
    omega

theorem beyond_congr (h : g.remote = f.remote) (a b : Nat) (dir : Direction) :
    g.beyond a b dir = f.beyond a b dir := by
  cases dir <;> simp only [beyond, h]

theorem stopAfter_congr (h : g.remote = f.remote) (b n : Nat) (dir : Direction) :
    g.stopAfter b n dir = f.stopAfter b n dir := by
  cases dir <;> simp only [stopAfter, h]

theorem startAfter_le (a n : Nat) (dir : Direction) : startAfter a n dir ≤ a := by
  cases dir <;> simp [startAfter]

theorem le_stopAfter (hb : b ≤ f.remote.size) (n : Nat) (dir : Direction) :
    b ≤ f.stopAfter b n dir := by
  cases dir <;> simp [stopAfter, hb]

/-! ## One page -/

/-- What a page of length `p` tells that comes upon `n` messages beyond the loaded ones. -/
def tells (p n : Nat) : FetchOutcome := if n ≤ p then .exhausted else .more

theorem tells_eq_exhausted_iff : tells p n = .exhausted ↔ n ≤ p := by
  rw [tells]
  split <;> simp [*]

theorem tells_eq_more_iff : tells p n = .more ↔ p < n := by
  rw [tells]
  split
  · next hlast => simp [hlast]
  · next hmore => simp [Nat.not_le.1 hmore]

theorem eq_tells {o : FetchOutcome} (h : o = .exhausted ↔ n ≤ p) : o = tells p n := by
  rw [tells]
  cases o with
  | more => simpa using h
  | exhausted => simpa using h

/-- **A page moves one end of a span on by its length**, or as far as there are messages, and tells
whether there were more. -/
theorem Spans.exists_page (h : f.Spans a b) (hab : a < b)
    (hfits : f.remote.size + f.config.pageSize < Count.bound) (dir : Direction) :
    ∃ g, f.serve dir = .ok (g, tells f.config.pageSize (f.beyond a b dir)) ∧
      g.Spans (startAfter a f.config.pageSize dir) (f.stopAfter b f.config.pageSize dir) := by
  have hb := h.le_size
  cases dir with
  | older =>
    obtain ⟨hspans, hlast⟩ := h.serve_older hab f.serve_older_eq
    exact ⟨_, f.serve_older_eq.trans (by rw [eq_tells hlast, beyond]), hspans⟩
  | newer =>
    have hsum : f.newerStart + f.config.pageSize < Count.bound := by
      rw [h.newerStart_eq hab]
      omega
    have hserve := f.serve_newer_eq.trans (if_pos hsum)
    obtain ⟨hspans, hlast⟩ := h.serve_newer hab hserve
    have hbeyond : f.remote.size ≤ b + f.config.pageSize ↔
        f.beyond a b .newer ≤ f.config.pageSize := by
      rw [beyond]
      omega
    exact ⟨_, hserve.trans (by rw [eq_tells (hlast.trans hbeyond)]), hspans⟩

/-- What one page brings, and what it tells of the rest. -/
theorem Spans.page_exact (h : f.Spans a b) (hab : a < b)
    (hfits : f.remote.size + f.config.pageSize < Count.bound) (dir : Direction) :
    ∃ g o, f.serve dir = .ok (g, o) ∧ g.remote = f.remote ∧
      g.loaded.entries = f.remote.slice (startAfter a f.config.pageSize dir)
        (f.stopAfter b f.config.pageSize dir) ∧
      (o = .exhausted ↔ f.beyond a b dir ≤ f.config.pageSize) ∧
      (o = .more → (f.loaded.gained g.loaded).length = f.config.pageSize) := by
  have hb := h.le_size
  obtain ⟨g, hserve, hspans⟩ := h.exists_page hab hfits dir
  have hremote := (serve_frame hserve).1
  refine ⟨g, _, hserve, hremote, hremote ▸ hspans.entries, tells_eq_exhausted_iff, ?_⟩
  rw [tells_eq_more_iff, h.length_gained hspans hremote (startAfter_le ..) (le_stopAfter hb ..)]
  -- there are more messages than the page holds, so it is not cut off
  intro hmore
  cases dir <;> simp only [beyond, startAfter, stopAfter] at hmore ⊢ <;> omega

/-! ## One page after the other -/

/-- So many pages of one direction, one after the other: the feed after them, and what each told. -/
def walk (f : Feed) (dir : Direction) : Nat → Checked (Feed × List FetchOutcome)
  | 0 => .ok (f, [])
  | m + 1 => do
    let (g, told) ← f.walk dir m
    let (g', o) ← g.serve dir
    return (g', told ++ [o])

theorem walk_succ {g' : Feed} {told : List FetchOutcome} {o : FetchOutcome}
    (h : f.walk dir m = .ok (g, told)) (hserve : g.serve dir = .ok (g', o)) :
    f.walk dir (m + 1) = .ok (g', told ++ [o]) := by
  rw [walk, h]
  simp only [bind, Except.bind, hserve]
  rfl

/-- What the first `m` pages of length `p` tell, if there are `n` messages to come. -/
def tellsAll (p n m : Nat) : List FetchOutcome :=
  (List.range m).map fun i => tells p (n - i * p)

theorem tellsAll_succ (p n m : Nat) :
    tellsAll p n (m + 1) = tellsAll p n m ++ [tells p (n - m * p)] := by
  rw [tellsAll, List.range_succ, List.map_append, List.map_singleton, tellsAll]

/-- **Any number of pages** moves one end of a span on by as many pages, or as far as there are
messages. -/
theorem Spans.exists_walk (h : f.Spans a b) (hab : a < b)
    (hfits : f.remote.size + f.config.pageSize < Count.bound) (dir : Direction) (m : Nat) :
    ∃ g, f.walk dir m = .ok (g, tellsAll f.config.pageSize (f.beyond a b dir) m) ∧
      g.remote = f.remote ∧ g.config = f.config ∧
      g.Spans (startAfter a (m * f.config.pageSize) dir)
        (f.stopAfter b (m * f.config.pageSize) dir) := by
  have hb := h.le_size
  induction m with
  | zero =>
    refine ⟨f, rfl, rfl, rfl, ?_⟩
    rwa [Nat.zero_mul, startAfter_zero, stopAfter_zero hb]
  | succ m ih =>
    obtain ⟨g, hwalk, hremote, hconfig, hspans⟩ := ih
    have hstart := startAfter_le a (m * f.config.pageSize) dir
    have hstop := le_stopAfter hb (m * f.config.pageSize) dir
    obtain ⟨g', hserve, hspans'⟩ :=
      hspans.exists_page (by omega) (by rwa [hremote, hconfig]) dir
    obtain ⟨hremote', hconfig'⟩ := serve_frame hserve
    rw [hconfig, startAfter_add, stopAfter_congr hremote, stopAfter_add, ← Nat.succ_mul] at hspans'
    rw [hconfig, beyond_congr hremote, beyond_after] at hserve
    rw [tellsAll_succ]
    exact ⟨g', walk_succ hwalk hserve, hremote'.trans hremote, hconfig'.trans hconfig, hspans'⟩

/-! ## The pages to an end -/

/-- How many pages of length `p` it takes to learn that no more than `n` messages were to come: as
many as they fill, and one at least. -/
def pagesFor (p n : Nat) : Nat := max 1 (n ⌈/⌉ p)

theorem lt_pagesFor (hp : 0 < p) (h : m + 1 < pagesFor p n) : p < n - m * p := by
  have hnot : ¬ n ⌈/⌉ p ≤ m + 1 := by
    rw [pagesFor] at h
    omega
  rw [ceilDiv_le_iff_le_mul hp, Nat.mul_succ, Nat.mul_comm] at hnot
  omega

theorem le_pagesFor (hp : 0 < p) : n ≤ pagesFor p n * p := by
  rw [Nat.mul_comm, ← ceilDiv_le_iff_le_mul hp]
  exact Nat.le_max_right _ _

theorem pagesFor_pos (p n : Nat) : 0 < pagesFor p n := Nat.le_max_left _ _

/-- All pages before the last one that it takes promise more. -/
theorem tellsAll_of_lt (hp : 0 < p) (h : m < pagesFor p n) :
    tellsAll p n m = List.replicate m .more := by
  rw [List.eq_replicate_iff, tellsAll]
  refine ⟨by simp, fun o ho => ?_⟩
  obtain ⟨i, hi, rfl⟩ := List.mem_map.1 ho
  have hlt := List.mem_range.1 hi
  exact tells_eq_more_iff.2 (lt_pagesFor hp (by omega))

/-- The last one tells that nothing is left. -/
theorem tellsAll_pagesFor (hp : 0 < p) :
    tellsAll p n (pagesFor p n) = List.replicate (pagesFor p n - 1) .more ++ [.exhausted] := by
  have hpos := pagesFor_pos p n
  have hlast := le_pagesFor (n := n) hp
  obtain ⟨m, hm⟩ : ∃ m, pagesFor p n = m + 1 := ⟨pagesFor p n - 1, by omega⟩
  rw [hm, Nat.succ_mul] at hlast
  rw [hm, tellsAll_succ, tellsAll_of_lt hp (by omega), Nat.add_sub_cancel,
    tells_eq_exhausted_iff.2 (by omega)]

/-- A span that was moved on by no less than lies beyond it has come to the end. -/
theorem startAfter_of_beyond_le (h : f.beyond a b dir ≤ n) :
    startAfter a n dir = startAfter a (f.beyond a b dir) dir := by
  cases dir with
  | older =>
    simp only [beyond, startAfter] at h ⊢
    omega
  | newer => rfl

theorem stopAfter_of_beyond_le (h : f.beyond a b dir ≤ n) :
    f.stopAfter b n dir = f.stopAfter b (f.beyond a b dir) dir := by
  cases dir with
  | older => rfl
  | newer =>
    simp only [beyond, stopAfter] at h ⊢
    omega

/-- The pages that lead to an end of the history, and the spans on the way there. -/
theorem Spans.walk_exact (h : f.Spans a b) (hab : a < b) (hpage : 1 ≤ f.config.pageSize)
    (hfits : f.remote.size + f.config.pageSize < Count.bound) (dir : Direction) :
    let p := f.config.pageSize
    let n := f.beyond a b dir
    (∀ m < pagesFor p n, ∃ g, f.walk dir m = .ok (g, .replicate m .more) ∧
      g.loaded.entries = f.remote.slice (startAfter a (m * p) dir) (f.stopAfter b (m * p) dir)) ∧
    ∃ g, f.walk dir (pagesFor p n) = .ok (g, .replicate (pagesFor p n - 1) .more ++ [.exhausted]) ∧
      g.remote = f.remote ∧
      g.loaded.entries = f.remote.slice (startAfter a n dir) (f.stopAfter b n dir) := by
  intro p n
  constructor
  · intro m hm
    obtain ⟨g, hwalk, hremote, -, hspans⟩ := h.exists_walk hab hfits dir m
    rw [tellsAll_of_lt hpage hm] at hwalk
    exact ⟨g, hwalk, hremote ▸ hspans.entries⟩
  · obtain ⟨g, hwalk, hremote, -, hspans⟩ := h.exists_walk hab hfits dir (pagesFor p n)
    rw [tellsAll_pagesFor hpage] at hwalk
    have hwhole : n ≤ pagesFor p n * p := le_pagesFor hpage
    rw [startAfter_of_beyond_le hwhole, stopAfter_of_beyond_le hwhole] at hspans
    exact ⟨g, hwalk, hremote, hremote ▸ hspans.entries⟩

/-- **Pages are exact and complete.** A page toward older messages joins the messages before the
span to it, a page of them or all that there are, and a page toward newer messages those after it.
It tells that nothing is left just if that is so, and otherwise it has brought a full page of messages
that were not loaded. So as many pages as the messages beyond the span fill, and one at least, lead to
the end of the history in their direction, through spans that grow by a page at a time, and the last
page alone tells that nothing is left. -/
theorem pages_exact (h : f.Spans a b) (hab : a < b) (hpage : 1 ≤ f.config.pageSize)
    (hfits : f.remote.size + f.config.pageSize < Count.bound) :
    let p := f.config.pageSize
    let n := f.remote.size
    (∃ g o, f.serve .older = .ok (g, o) ∧ g.remote = f.remote ∧
      g.loaded.entries = f.remote.slice (a - p) b ∧ (o = .exhausted ↔ a ≤ p) ∧
      (o = .more → (f.loaded.gained g.loaded).length = p)) ∧
    (∃ g o, f.serve .newer = .ok (g, o) ∧ g.remote = f.remote ∧
      g.loaded.entries = f.remote.slice a (min (b + p) n) ∧ (o = .exhausted ↔ n ≤ b + p) ∧
      (o = .more → (f.loaded.gained g.loaded).length = p)) ∧
    (∀ m < pagesFor p a, ∃ g, f.walk .older m = .ok (g, .replicate m .more) ∧
      g.loaded.entries = f.remote.slice (a - m * p) b) ∧
    (∃ g, f.walk .older (pagesFor p a) =
        .ok (g, .replicate (pagesFor p a - 1) .more ++ [.exhausted]) ∧
      g.remote = f.remote ∧ g.loaded.entries = f.remote.slice 0 b) ∧
    (∀ m < pagesFor p (n - b), ∃ g, f.walk .newer m = .ok (g, .replicate m .more) ∧
      g.loaded.entries = f.remote.slice a (min (b + m * p) n)) ∧
    ∃ g, f.walk .newer (pagesFor p (n - b)) =
        .ok (g, .replicate (pagesFor p (n - b) - 1) .more ++ [.exhausted]) ∧
      g.remote = f.remote ∧ g.loaded.entries = f.remote.slice a n := by
  intro p n
  have hb := h.le_size
  have hrest : a - a = 0 := Nat.sub_self a
  have hend : min (b + (f.remote.size - b)) f.remote.size = f.remote.size := by omega
  obtain ⟨holderPart, holder⟩ := h.walk_exact hab hpage hfits .older
  obtain ⟨hnewerPart, hnewer⟩ := h.walk_exact hab hpage hfits .newer
  simp only [beyond, startAfter, stopAfter, hrest] at holder
  simp only [beyond, startAfter, stopAfter, hend] at hnewer
  refine ⟨h.page_exact hab hfits .older, ?_, holderPart, holder, hnewerPart, hnewer⟩
  obtain ⟨g, o, hserve, hremote, hentries, hlast, hgained⟩ := h.page_exact hab hfits .newer
  refine ⟨g, o, hserve, hremote, hentries, hlast.trans ?_, hgained⟩
  rw [beyond]
  omega

/-- The fourth of six messages is loaded. Two pages of two messages lead to the first one, though
one message was left for the second page. -/
theorem pages_exact_six : ∃ f g : Feed, f.Spans 3 4 ∧ f.config.pageSize = 2 ∧ f.remote.size = 6 ∧
    f.walk .older 2 = .ok (g, [.more, .exhausted]) ∧ g.loaded.entries = f.remote.slice 0 4 := by
  let remote := Graph.ofEntries
    [⟨⟨1, by decide⟩, .deleted⟩, ⟨⟨2, by decide⟩, .deleted⟩, ⟨⟨5, by decide⟩, .deleted⟩,
      ⟨⟨8, by decide⟩, .deleted⟩, ⟨⟨9, by decide⟩, .deleted⟩, ⟨⟨30, by decide⟩, .deleted⟩]
  let f : Feed :=
    { remote, loaded := Graph.ofEntries (remote.slice 3 4), config := { pageSize := 2 } }
  have hspans : f.Spans 3 4 := ⟨by decide, by decide +kernel, by decide +kernel⟩
  obtain ⟨-, -, -, ⟨g, hwalk, -, hentries⟩, -⟩ :=
    pages_exact hspans (by decide) (by decide) (by decide +kernel)
  have htwo : pagesFor f.config.pageSize 3 = 2 := by decide
  rw [htwo] at hwalk
  exact ⟨f, g, hspans, rfl, by decide +kernel, hwalk, hentries⟩

end Scrollback.Feed
