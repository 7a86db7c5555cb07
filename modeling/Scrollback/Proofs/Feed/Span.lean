import Scrollback.Feed
import Scrollback.Proofs.Graph.Position
import Scrollback.Proofs.Graph.Slice
/-!
# The loaded span

The loaded part of a feed is the slice of the history between two positions. Each operation of the
feed moves these two positions and leaves no hole; what it moves them to is stated here, operation
by operation.

## Main definitions

* `Feed.Spans f a b` — the history's entries at positions `a` to `b` are loaded, and no others.

## Main statements

* `Feed.Spans.serve_older`, `Feed.Spans.serve_newer` — a page moves one end of the span.
* `Feed.Spans.jumpToLatest_extended`, `Feed.Spans.jumpToLatest_replaced` — a jump joins the newest
  page or exchanges the span for it.
* `Feed.Spans.append` — a new message joins a span that reaches the end.
-/

namespace Scrollback.Feed

variable {f f' : Feed} {a b c d : Nat}

/-- The loaded part is the slice of the history at positions `a` to `b`, the latter excluded. -/
structure Spans (f : Feed) (a b : Nat) : Prop where
  le : a ≤ b
  le_size : b ≤ f.remote.size
  entries : f.loaded.entries = f.remote.slice a b

/-! ## The ends of a span -/

/-- An empty span lies anywhere. -/
theorem Spans.of_empty (h : f.loaded.entries = []) (hc : c ≤ f.remote.size) : f.Spans c c where
  le := Nat.le_refl c
  le_size := hc
  entries := by rw [h, Graph.slice_eq_nil (Nat.le_refl c)]

theorem Spans.entries_eq_nil (h : f.Spans a a) : f.loaded.entries = [] := by
  rw [h.entries, Graph.slice_eq_nil (Nat.le_refl a)]

theorem Spans.size_loaded (h : f.Spans a b) : f.loaded.size = b - a := by
  rw [Graph.size, h.entries, Graph.length_slice h.le_size]

/-- A span that reaches over another one has lost nothing of it. -/
theorem Spans.entries_subset (h : f.Spans a b) (k : f'.Spans c d) (hr : f'.remote = f.remote)
    (hca : c ≤ a) (hbd : b ≤ d) : f.loaded.entries ⊆ f'.loaded.entries := by
  intro e he
  rw [h.entries, Graph.mem_slice] at he
  obtain ⟨i, hai, hib, hi⟩ := he
  rw [k.entries, hr, Graph.mem_slice]
  exact ⟨i, Nat.le_trans hca hai, Nat.lt_of_lt_of_le hib hbd, hi⟩

/-- What it has gained lies before that span and after it. -/
theorem Spans.length_gained (h : f.Spans a b) (k : f'.Spans c d) (hr : f'.remote = f.remote)
    (hca : c ≤ a) (hbd : b ≤ d) : (f.loaded.gained f'.loaded).length = (a - c) + (d - b) := by
  have hgained := Graph.length_gained (List.map_subset _ (h.entries_subset k hr hca hbd))
  have hab := h.le
  rw [h.size_loaded, k.size_loaded] at hgained
  omega

/-- The oldest loaded entry stands at the start of the span. -/
theorem Spans.smallest? (h : f.Spans a b) (hab : a < b) :
    ∃ e, f.remote.entries[a]? = some e ∧ f.loaded.smallest? = some e.index := by
  obtain ⟨e, he, hsmall⟩ := f.loaded.exists_first (by rw [h.size_loaded]; omega)
  rw [h.entries, Graph.getElem?_slice (by omega), Nat.add_zero] at he
  exact ⟨e, he, hsmall⟩

/-- The newest loaded entry stands before the end of the span. -/
theorem Spans.largest? (h : f.Spans a b) (hab : a < b) :
    ∃ e, f.remote.entries[b - 1]? = some e ∧ f.loaded.largest? = some e.index := by
  obtain ⟨e, he, hlarge⟩ := f.loaded.exists_last (by rw [h.size_loaded]; omega)
  have hlast : a + (b - a - 1) = b - 1 := by omega
  rw [h.size_loaded, h.entries, Graph.getElem?_slice (by omega), hlast] at he
  exact ⟨e, he, hlarge⟩

theorem smallest?_eq_none (h : f.loaded.entries = []) : f.loaded.smallest? = none := by
  rw [Graph.smallest?_eq_none_iff, Graph.size, h, List.length_nil]

theorem largest?_eq_none (h : f.loaded.entries = []) : f.loaded.largest? = none := by
  rw [Graph.largest?_eq_none_iff, Graph.size, h, List.length_nil]

/-! ## Copying -/

/-- Copied entries that meet the span are joined to it. -/
theorem Spans.copy (h : f.Spans a b) (hcb : c ≤ b) (had : a ≤ d) (hd : d ≤ f.remote.size) :
    (f.copy c d).1.Spans (min a c) (max b d) where
  le := by have := h.le; omega
  le_size := Nat.max_le.2 ⟨h.le_size, hd⟩
  entries := Graph.entries_extend_slice h.entries hcb had

/-- Entries copied into an empty feed are all that is loaded. -/
theorem Spans.copy_of_empty (h : f.loaded.entries = []) (hcd : c ≤ d) (hd : d ≤ f.remote.size) :
    (f.copy c d).1.Spans c d := by
  have key := (Spans.of_empty h (Nat.le_trans hcd hd)).copy (Nat.le_refl c) hcd hd
  rwa [Nat.min_self, Nat.max_eq_right hcd] at key

/-! ## Pages -/

/-- The position at which a page toward older messages stops. -/
def olderStop (f : Feed) : Nat := f.loaded.smallest?.elim f.remote.size f.remote.rank

/-- The position at which a page toward newer messages starts. -/
def newerStart (f : Feed) : Nat := f.loaded.largest?.elim f.remote.size f.rankAfter

theorem serve_older_eq (f : Feed) : f.serve .older =
    .ok ((f.copy (f.olderStop - f.config.pageSize) f.olderStop).1,
      f.outcome .older (f.olderStop - f.config.pageSize) f.olderStop) := rfl

/-- A page toward newer messages faults when its far end is no count. -/
theorem serve_newer_eq (f : Feed) : f.serve .newer =
    if f.newerStart + f.config.pageSize < Count.bound then
      .ok ((f.copy f.newerStart (min (f.newerStart + f.config.pageSize) f.remote.size)).1,
        f.outcome .newer f.newerStart (min (f.newerStart + f.config.pageSize) f.remote.size))
    else .error .addOverflow := by
  by_cases h : f.newerStart + f.config.pageSize < Count.bound
  · have hadd : Count.add f.newerStart f.config.pageSize =
        .ok (f.newerStart + f.config.pageSize) := Count.add_eq_ok.2 ⟨h, rfl⟩
    rw [newerStart] at hadd
    simp only [if_pos h, serve, pageBounds, hadd]
    rfl
  · have hadd : Count.add f.newerStart f.config.pageSize = .error .addOverflow := if_neg h
    rw [newerStart] at hadd
    simp only [if_neg h, serve, pageBounds, hadd]
    rfl

theorem outcome_older_eq_exhausted (f : Feed) (start stop : Nat) :
    f.outcome .older start stop = .exhausted ↔ start = 0 := by
  by_cases h : start = 0 <;> simp [outcome, h]

theorem outcome_newer_eq_exhausted (f : Feed) (start stop : Nat) :
    f.outcome .newer start stop = .exhausted ↔ stop = f.remote.size := by
  by_cases h : stop = f.remote.size <;> simp [outcome, h]

theorem olderStop_of_empty (h : f.loaded.entries = []) : f.olderStop = f.remote.size := by
  rw [olderStop, smallest?_eq_none h, Option.elim_none]

theorem newerStart_of_empty (h : f.loaded.entries = []) : f.newerStart = f.remote.size := by
  rw [newerStart, largest?_eq_none h, Option.elim_none]

theorem newerStart_le (f : Feed) : f.newerStart ≤ f.remote.size := by
  rw [newerStart]
  cases f.loaded.largest? with
  | none => exact Nat.le_refl _
  | some k => exact (List.takeWhile_sublist _).length_le

theorem Spans.olderStop_eq (h : f.Spans a b) (hab : a < b) : f.olderStop = a := by
  obtain ⟨e, he, hsmall⟩ := h.smallest? hab
  rw [olderStop, hsmall, Option.elim_some, Graph.rank_eq_of_entry he]

/-- Up to an entry's index there are the entries before it and the entry itself. -/
theorem rankAfter_eq_of_entry {e : Entry} {i : Nat} (h : f.remote.entries[i]? = some e) :
    f.rankAfter e.index = i + 1 := by
  have hi : i < f.remote.entries.length := (List.getElem?_eq_some_iff.1 h).1
  refine length_takeWhile_eq hi (fun j x hj hx => ?_) (fun x hx => ?_)
  · exact decide_eq_true ((f.remote.sorted.index_le_iff hx h).2 (Nat.le_of_lt_succ hj))
  · have hle := f.remote.sorted.index_le_iff hx h
    exact decide_eq_false fun hxe => Nat.not_succ_le_self i (hle.1 hxe)

theorem Spans.newerStart_eq (h : f.Spans a b) (hab : a < b) : f.newerStart = b := by
  obtain ⟨e, he, hlarge⟩ := h.largest? hab
  rw [newerStart, hlarge, Option.elim_some, rankAfter_eq_of_entry he]
  omega

/-- A page toward older messages moves the start of the span back by a page, as far as there are
messages. -/
theorem Spans.serve_older (h : f.Spans a b) (hab : a < b) {o : FetchOutcome}
    (hf : f.serve .older = .ok (f', o)) :
    f'.Spans (a - f.config.pageSize) b ∧ (o = .exhausted ↔ a ≤ f.config.pageSize) := by
  rw [serve_older_eq, h.olderStop_eq hab] at hf
  cases hf
  have key := h.copy (c := a - f.config.pageSize) (d := a) (by omega) (Nat.le_refl a)
    (Nat.le_trans h.le h.le_size)
  rw [Nat.min_eq_right (Nat.sub_le _ _), Nat.max_eq_left h.le] at key
  exact ⟨key, by rw [outcome_older_eq_exhausted, Nat.sub_eq_zero_iff_le]⟩

/-- Into an empty feed a page toward older messages loads the newest page. -/
theorem serve_older_of_empty (h : f.loaded.entries = []) {o : FetchOutcome}
    (hf : f.serve .older = .ok (f', o)) :
    f'.Spans (f.remote.size - f.config.pageSize) f.remote.size ∧
      (o = .exhausted ↔ f.remote.size ≤ f.config.pageSize) := by
  rw [serve_older_eq, olderStop_of_empty h] at hf
  cases hf
  exact ⟨Spans.copy_of_empty h (Nat.sub_le _ _) (Nat.le_refl _),
    by rw [outcome_older_eq_exhausted, Nat.sub_eq_zero_iff_le]⟩

/-- A page toward newer messages moves the end of the span on by a page, as far as there are
messages. -/
theorem Spans.serve_newer (h : f.Spans a b) (hab : a < b) {o : FetchOutcome}
    (hf : f.serve .newer = .ok (f', o)) :
    f'.Spans a (min (b + f.config.pageSize) f.remote.size) ∧
      (o = .exhausted ↔ f.remote.size ≤ b + f.config.pageSize) := by
  rw [serve_newer_eq, h.newerStart_eq hab] at hf
  split at hf
  · cases hf
    have hb := h.le_size
    have key := h.copy (c := b) (d := min (b + f.config.pageSize) f.remote.size) (Nat.le_refl b)
      (by omega) (Nat.min_le_right _ _)
    rw [Nat.min_eq_left h.le, Nat.max_eq_right (by omega)] at key
    exact ⟨key, by rw [outcome_newer_eq_exhausted]; omega⟩
  · cases hf

/-- Into an empty feed a page toward newer messages loads nothing. -/
theorem serve_newer_of_empty (h : f.loaded.entries = []) {o : FetchOutcome}
    (hf : f.serve .newer = .ok (f', o)) :
    f'.Spans f.remote.size f.remote.size := by
  rw [serve_newer_eq, newerStart_of_empty h] at hf
  split at hf
  · cases hf
    rw [Nat.min_eq_right (Nat.le_add_right _ _)]
    exact Spans.copy_of_empty h (Nat.le_refl _) (Nat.le_refl _)
  · cases hf

/-- A page leaves the history and the configuration alone. -/
theorem serve_frame {dir : Direction} {o : FetchOutcome} (hf : f.serve dir = .ok (f', o)) :
    f'.remote = f.remote ∧ f'.config = f.config := by
  cases dir with
  | older =>
    rw [serve_older_eq] at hf
    cases hf
    exact ⟨rfl, rfl⟩
  | newer =>
    rw [serve_newer_eq] at hf
    split at hf
    · cases hf
      exact ⟨rfl, rfl⟩
    · cases hf

/-- After a page the loaded part is a span again. -/
theorem Spans.exists_serve (h : f.Spans a b) {dir : Direction} {o : FetchOutcome}
    (hf : f.serve dir = .ok (f', o)) : ∃ a' b', f'.Spans a' b' := by
  rcases Nat.lt_or_eq_of_le h.le with hab | rfl
  · cases dir with
    | older => exact ⟨_, _, (h.serve_older hab hf).1⟩
    | newer => exact ⟨_, _, (h.serve_newer hab hf).1⟩
  · cases dir with
    | older => exact ⟨_, _, (serve_older_of_empty h.entries_eq_nil hf).1⟩
    | newer => exact ⟨_, _, serve_newer_of_empty h.entries_eq_nil hf⟩

/-! ## The newest page -/

theorem latestStart_le (f : Feed) : f.latestStart ≤ f.remote.size := Nat.sub_le _ _

/-- A span comes up to the newest page when it ends at the page's start or beyond. -/
theorem Spans.reachesLatest_iff (h : f.Spans a b) (hab : a < b) :
    f.reachesLatest = true ↔ f.latestStart ≤ b := by
  obtain ⟨e, he, hlarge⟩ := h.largest? hab
  rw [reachesLatest, hlarge]
  cases hs : f.latestStart with
  | zero => simp
  | succ before =>
    have hbefore : before < f.remote.entries.length := by
      have := f.latestStart_le
      rw [hs] at this
      exact this
    have hget := List.getElem?_eq_getElem hbefore
    have hle := f.remote.sorted.index_le_iff hget he
    simp only [Graph.keyAt?, Graph.entryAt?, hget, Option.map_some, Option.any_some,
      decide_eq_true_eq, hle]
    omega

theorem reachesLatest_of_empty (h : f.loaded.entries = []) : f.reachesLatest = true := by
  rw [reachesLatest, largest?_eq_none h]

theorem loadLatest_of_empty (h : f.loaded.entries = []) :
    f.loadLatest.1.Spans f.latestStart f.remote.size :=
  Spans.copy_of_empty h f.latestStart_le (Nat.le_refl _)

theorem Spans.loadLatest (h : f.Spans a b) (hb : f.latestStart ≤ b) :
    f.loadLatest.1.Spans (min a f.latestStart) f.remote.size := by
  have key := h.copy hb (Nat.le_trans h.le h.le_size) (Nat.le_refl f.remote.size)
  rwa [Nat.max_eq_right h.le_size] at key

/-- A jump that joins the newest page leaves a span that reaches the end. -/
theorem Spans.jumpToLatest_extended (h : f.Spans a b) (hab : a < b) {added : Nat}
    (hf : f.jumpToLatest = (f', .extended added)) :
    f.latestStart ≤ b ∧ f'.Spans (min a f.latestStart) f.remote.size := by
  rw [jumpToLatest] at hf
  split at hf
  · next hreach =>
    have hb := (h.reachesLatest_iff hab).1 hreach
    cases hf
    exact ⟨hb, h.loadLatest hb⟩
  · cases hf

/-- A jump that exchanges the span leaves the newest page alone. -/
theorem jumpToLatest_replaced (hf : f.jumpToLatest = (f', .replaced)) :
    f.reachesLatest = false ∧ f'.Spans f.latestStart f.remote.size := by
  rw [jumpToLatest] at hf
  split at hf
  · cases hf
  · next hreach =>
    cases hf
    refine ⟨eq_false_of_ne_true hreach, ?_⟩
    exact loadLatest_of_empty (f := { f with loaded := Graph.empty }) rfl

/-- A jump leaves the history and the configuration alone. -/
theorem jumpToLatest_frame (f : Feed) :
    f.jumpToLatest.1.remote = f.remote ∧ f.jumpToLatest.1.config = f.config := by
  rw [jumpToLatest]
  split <;> exact ⟨rfl, rfl⟩

/-- After a jump the loaded part is a span that reaches the end. -/
theorem Spans.exists_jumpToLatest (h : f.Spans a b) :
    ∃ a', f.jumpToLatest.1.Spans a' f.remote.size := by
  cases hpage : f.jumpToLatest with
  | mk f' page =>
    cases page with
    | replaced => exact ⟨_, (jumpToLatest_replaced hpage).2⟩
    | extended added =>
      rcases Nat.lt_or_eq_of_le h.le with hab | rfl
      · exact ⟨_, (h.jumpToLatest_extended hab hpage).2⟩
      · have hempty := h.entries_eq_nil
        rw [jumpToLatest, if_pos (reachesLatest_of_empty hempty)] at hpage
        cases hpage
        exact ⟨_, loadLatest_of_empty hempty⟩

/-! ## The page around an index -/

/-- The page around an index is copied unless its far end is no count. -/
theorem loadAround_eq_ok {target : MessageIndex} {n : Nat} :
    f.loadAround target = .ok (f', n) ↔
      f.remote.rank target + f.config.pageSize / 2 < Count.bound ∧
        f.copy (f.remote.rank target - f.config.pageSize / 2)
          (min (f.remote.rank target + f.config.pageSize / 2) f.remote.size) = (f', n) := by
  rw [loadAround, Checked.bind_eq_ok]
  constructor
  · rintro ⟨stop, hstop, hcopy⟩
    obtain ⟨hlt, rfl⟩ := Count.add_eq_ok.1 hstop
    exact ⟨hlt, Except.ok.inj hcopy⟩
  · rintro ⟨hlt, hcopy⟩
    exact ⟨_, Count.add_eq_ok.2 ⟨hlt, rfl⟩, congrArg Except.ok hcopy⟩

/-- The page around an index leaves the history and the configuration alone. -/
theorem loadAround_frame {target : MessageIndex} {n : Nat}
    (hf : f.loadAround target = .ok (f', n)) : f'.remote = f.remote ∧ f'.config = f.config := by
  obtain ⟨-, hcopy⟩ := loadAround_eq_ok.1 hf
  cases hcopy
  exact ⟨rfl, rfl⟩

theorem loadAround_of_empty (h : f.loaded.entries = []) {target : MessageIndex} {n : Nat}
    (hf : f.loadAround target = .ok (f', n)) :
    f'.Spans (f.remote.rank target - f.config.pageSize / 2)
      (min (f.remote.rank target + f.config.pageSize / 2) f.remote.size) := by
  obtain ⟨-, hcopy⟩ := loadAround_eq_ok.1 hf
  cases hcopy
  have hrank := f.remote.rank_le_size target
  exact Spans.copy_of_empty h (by omega) (Nat.min_le_right _ _)

/-! ## New messages -/

/-- Appending puts the message after all others in the history, and into the loaded part if that
ends where the history ends. -/
theorem append_eq_ok {m : Message} {i : MessageIndex} (hf : f.append m = .ok (f', i)) :
    (∀ e ∈ f.remote.entries, e.index < i) ∧
      f' = { f with
        remote := f.remote.insert i (.post m)
        loaded := if f.loaded.largest? = f.remote.largest? then f.loaded.insert i (.post m)
          else f.loaded } := by
  rw [append] at hf
  cases hnext : f.remote.largest?.elim (.ok MessageIndex.first) MessageIndex.next with
  | error e => rw [hnext] at hf; cases hf
  | ok k =>
    rw [hnext] at hf
    cases hf
    refine ⟨fun e he => ?_, rfl⟩
    obtain ⟨j, hj⟩ := List.mem_iff_getElem?.1 he
    have hjlt : j < f.remote.size := (List.getElem?_eq_some_iff.1 hj).1
    obtain ⟨last, hlast, hlarge⟩ := f.remote.exists_last (by omega)
    rw [hlarge, Option.elim_some, MessageIndex.next] at hnext
    split at hnext
    · cases hnext
      have hle := (f.remote.sorted.index_le_iff hj hlast).2 (by omega)
      exact Nat.lt_succ_of_le hle
    · cases hnext

/-- A span whose newest entry is the history's reaches the end. -/
theorem Spans.eq_size_of_largest?_eq (h : f.Spans a b)
    (heq : f.loaded.largest? = f.remote.largest?) : b = f.remote.size := by
  have hsize := h.le_size
  rcases Nat.lt_or_eq_of_le h.le with hab | rfl
  · obtain ⟨e, he, hlarge⟩ := h.largest? hab
    obtain ⟨last, hlast, hend⟩ := f.remote.exists_last (by omega)
    rw [hlarge, hend] at heq
    have hpos := f.remote.sorted.position_eq he hlast (Option.some.inj heq)
    omega
  · rw [largest?_eq_none h.entries_eq_nil, eq_comm, Graph.largest?_eq_none_iff] at heq
    omega

/-- A new message joins a span that reaches the end of the history; any other span stays. -/
theorem Spans.append (h : f.Spans a b) {m : Message} {i : MessageIndex}
    (hf : f.append m = .ok (f', i)) :
    f'.Spans a (if f.loaded.largest? = f.remote.largest? then f.remote.size + 1 else b) := by
  obtain ⟨hlt, rfl⟩ := append_eq_ok hf
  have hremote := Graph.entries_insert_of_forall_lt (.post m) hlt
  have hsize : (f.remote.insert i (.post m)).size = f.remote.size + 1 := by
    rw [Graph.size, hremote, List.length_append, List.length_singleton, Graph.size]
  split
  · next heq =>
    obtain rfl := h.eq_size_of_largest?_eq heq
    have hloaded : ∀ e ∈ f.loaded.entries, e.index < i := by
      intro e he
      rw [h.entries, Graph.mem_slice] at he
      obtain ⟨j, -, -, hj⟩ := he
      exact hlt e (List.mem_of_getElem? hj)
    refine ⟨Nat.le_succ_of_le h.le, hsize.ge, ?_⟩
    change (f.loaded.insert i (.post m)).entries = (f.remote.insert i (.post m)).slice a _
    rw [Graph.entries_insert_of_forall_lt _ hloaded, h.entries, ← hsize, Graph.slice_size,
      Graph.slice_size, hremote, List.drop_append_of_le_length h.le]
  · refine ⟨h.le, by rw [hsize]; exact Nat.le_succ_of_le h.le_size, ?_⟩
    change f.loaded.entries = (f.remote.insert i (.post m)).slice a b
    rw [Graph.slice_append hremote h.le_size, h.entries]

/-- An acknowledgement changes the nodes of a span as it changes the history. -/
theorem Spans.acknowledge (h : f.Spans a b) (sent : PendingSend) :
    (f.acknowledge sent).1.Spans a b := by
  rw [Feed.acknowledge]
  split
  · exact
      { le := h.le
        le_size := by rw [Graph.acknowledge, Graph.size_modify]; exact h.le_size
        entries := by
          rw [Graph.acknowledge, Graph.acknowledge, Graph.slice_modify, ← h.entries]
          rfl }
  · exact h

end Scrollback.Feed
