import Scrollback.Proofs.Feed.End
/-!
# The way to a message

A message of the history that is not loaded lies beyond one of the loaded ends. A feed that is
opened around a message leaves it, if at all, on the side of the older ones: the page around it
holds it or ends the history, unless pages are so small that the page is empty; and the first page
after an empty one is the newest of all. So whatever happens from then on, the way to the message
never leads toward newer ones.

## Main definitions

* `Feed.ReachesUpTo` — what is loaded comes up to the place of a message.

## Main statements

* `Feed.exists_wayTo?` — a message that is not loaded lies in some direction.
* `Feed.ReachesStart.wayTo?_ne`, `Feed.ReachesUpTo.wayTo?_ne` — in which it does not lie.
* `Feed.reachesUpTo_loadAround` — the page around a message comes up to its place.
* `Feed.ReachesUpTo.settle`, `Feed.ReachesUpTo.append` — what happens to the feed leaves that.
-/

namespace Scrollback

/-- The entry at the rank of an index is at that index, or the first one after it. -/
theorem Graph.le_of_rank {g : Graph} {i : MessageIndex} {e : Entry}
    (h : g.entries[g.rank i]? = some e) : i ≤ e.index := by
  have hsplit := List.takeWhile_append_dropWhile (p := fun e : Entry => decide (e.index < i))
    (l := g.entries)
  have hfirst := List.head?_dropWhile_not (fun e : Entry => decide (e.index < i)) g.entries
  rw [← hsplit, rank, List.getElem?_append_right (Nat.le_refl _), Nat.sub_self,
    ← List.head?_eq_getElem?] at h
  rw [h] at hfirst
  have hfirst : decide (e.index < i) = false := hfirst
  exact Nat.le_of_not_lt (of_decide_eq_false hfirst)

namespace Feed

variable {f f' : Feed} {a b n : Nat} {d : Direction} {i : MessageIndex}

/-! ## Where a message lies -/

/-- A message of the history that is not loaded lies in some direction. -/
theorem exists_wayTo? (hspans : ∃ a b, f.Spans a b) (hi : f.remote.contains i = true)
    (hnot : f.loaded.contains i = false) : ∃ d, f.loaded.wayTo? i = some d := by
  cases hway : f.loaded.wayTo? i with
  | some d => exact ⟨d, rfl⟩
  | none =>
    obtain ⟨oldest, newest, holdest, hnewest, hold, hnew⟩ := Graph.wayTo?_eq_none hway
    obtain ⟨a, b, hs⟩ := hspans
    have hab : a < b := by
      rcases Nat.lt_or_eq_of_le hs.le with hab | rfl
      · exact hab
      · rw [smallest?_eq_none hs.entries_eq_nil] at holdest
        cases holdest
    obtain ⟨first, hfirst, hsmall⟩ := hs.smallest? hab
    obtain ⟨last, hlast, hlarge⟩ := hs.largest? hab
    cases holdest.symm.trans hsmall
    cases hnewest.symm.trans hlarge
    obtain ⟨x, hx, rfl⟩ := Graph.mem_keys_iff.1 (Graph.contains_iff_mem_keys.1 hi)
    obtain ⟨p, hp⟩ := List.mem_iff_getElem?.1 hx
    -- it would stand between the ends of the span, and be loaded
    have hap := (f.remote.sorted.index_le_iff hfirst hp).1 hold
    have hpb := (f.remote.sorted.index_le_iff hp hlast).1 hnew
    have hloaded : x ∈ f.loaded.entries := by
      rw [hs.entries]
      exact Graph.mem_slice.2 ⟨p, hap, by omega, hp⟩
    have hkey := Graph.contains_iff_mem_keys.2 (Graph.mem_keys_iff.2 ⟨x, hloaded, rfl⟩)
    rw [hnot] at hkey
    cases hkey

/-- Where messages are loaded from the first one on, none lies toward older ones. -/
theorem ReachesStart.wayTo?_ne (h : f.ReachesStart) (hi : f.remote.contains i = true) :
    f.loaded.wayTo? i ≠ some .older := by
  intro hway
  have hsize : f.loaded.size ≠ 0 := by
    obtain ⟨b, hb, hs⟩ := h
    rw [hs.size_loaded]
    omega
  obtain ⟨oldest, holdest, hlt⟩ := Graph.wayTo?_eq_some_older hway hsize
  rw [h.smallest?_eq] at holdest
  have hle := Graph.le_of_smallest? holdest (Graph.contains_iff_mem_keys.1 hi)
  exact Nat.lt_irrefl _ (Nat.lt_of_lt_of_le hlt hle)

/-! ## Up to the place of a message -/

/-- What is loaded, if anything is, comes up to the place of a message: it ends where the history
does, or not before that place. -/
def ReachesUpTo (f : Feed) (i : MessageIndex) : Prop :=
  f.loaded.size = 0 ∨ f.ReachesEnd ∨ ∃ k ∈ f.loaded.keys, i ≤ k

/-- Then the message does not lie toward newer ones. -/
theorem ReachesUpTo.wayTo?_ne (h : f.ReachesUpTo i) (hi : f.remote.contains i = true) :
    f.loaded.wayTo? i ≠ some .newer := by
  intro hway
  obtain ⟨newest, hnewest, hlt⟩ := Graph.wayTo?_eq_some_newer hway
  rcases h with hzero | hend | ⟨k, hk, hik⟩
  · rw [Graph.largest?_eq_none_iff.2 hzero] at hnewest
    cases hnewest
  · have hle := Graph.le_of_largest? (hend.symm.trans hnewest) (Graph.contains_iff_mem_keys.1 hi)
    exact Nat.lt_irrefl _ (Nat.lt_of_lt_of_le hlt hle)
  · have hle := Graph.le_of_largest? hnewest hk
    exact Nat.lt_irrefl _ (Nat.lt_of_lt_of_le hlt (Nat.le_trans hik hle))

/-- The page around a message comes up to its place. -/
theorem reachesUpTo_loadAround (h : f.loaded.entries = []) (hf : f.loadAround i = .ok (f', n)) :
    f'.ReachesUpTo i := by
  have hs := loadAround_of_empty h hf
  have hremote := (loadAround_frame hf).1
  have hrank := f.remote.rank_le_size i
  rcases Nat.eq_zero_or_pos (f.config.pageSize / 2) with hhalf | hhalf
  · left
    rw [hs.size_loaded, hhalf]
    omega
  · rcases Nat.lt_or_eq_of_le hrank with hlt | heq
    · -- the page holds the entry at the message's rank
      have he := List.getElem?_eq_getElem hlt
      refine .inr (.inr ⟨_, Graph.mem_keys_iff.2 ⟨_, ?_, rfl⟩, Graph.le_of_rank he⟩)
      rw [hs.entries, hremote]
      exact Graph.mem_slice.2 ⟨_, by omega, by omega, he⟩
    · right
      left
      rw [hs.reachesEnd_iff, hremote]
      omega

/-- What is added to the loaded part, and to the history where the loaded part ends it, leaves that;
if nothing is loaded, the first thing to be loaded has to end the history. -/
theorem ReachesUpTo.grows (h : f.ReachesUpTo i) (hg : Grows f f') (hspans : ∃ a b, f.Spans a b)
    (hend : f.ReachesEnd → f'.ReachesEnd)
    (hempty : f.loaded.size = 0 → f'.loaded.size = 0 ∨ f'.ReachesEnd) : f'.ReachesUpTo i := by
  rcases h with hzero | hreaches | ⟨k, hk, hik⟩
  · exact (hempty hzero).imp_right .inl
  · exact .inr (.inl (hend hreaches))
  · obtain ⟨pre, post, hkeys⟩ := hg.exists_keys hspans
    refine .inr (.inr ⟨k, ?_, hik⟩)
    rw [hkeys]
    exact List.mem_append_left _ (List.mem_append_right _ hk)

/-- So does a page, however its request settles: the first one to be loaded is the newest. -/
theorem ReachesUpTo.settle (h : f.ReachesUpTo i) (hspans : ∃ a b, f.Spans a b)
    (hpage : 0 < f.config.pageSize) (d : Direction) : (f.settle d).1.ReachesUpTo i := by
  refine h.grows (f.grows_settle d) hspans (fun hend => (reachesEnd_settle hspans d).2 (.inl hend))
    fun hzero => ?_
  have hnil : f.loaded.entries = [] := List.eq_nil_of_length_eq_zero hzero
  rcases f.settle_cases d with ⟨g, e, hg, heq⟩ | ⟨g, o, hserve, -, heq⟩ | ⟨g, fault, hg, heq⟩
  · left
    rw [heq, hg.loaded]
    exact hzero
  · rw [heq]
    cases d with
    | older =>
      right
      have hcatches : f.counted.catchesUp .older (.loaded o) = true :=
        catchesUp_older_iff.2 ⟨List.isEmpty_iff.2 hnil, hpage⟩
      exact (reachesEnd_serve (f.grows_counted.exists_spans hspans) hserve).2 (.inr hcatches)
    | newer =>
      left
      have hs := serve_newer_of_empty (f := f.counted) hnil hserve
      rw [hs.size_loaded, Nat.sub_self]
  · left
    rw [heq, hg.loaded]
    exact hzero

/-- So does a new message. -/
theorem ReachesUpTo.append (h : f.ReachesUpTo i) (hspans : ∃ a b, f.Spans a b) {m : Message}
    {k : MessageIndex} (hf : f.append m = .ok (f', k)) : f'.ReachesUpTo i := by
  have hiff := reachesEnd_append hspans hf
  refine h.grows (grows_append hf) hspans hiff.2 fun hzero => ?_
  by_cases hend : f.ReachesEnd
  · exact .inr (hiff.2 hend)
  · left
    obtain ⟨-, rfl⟩ := append_eq_ok hf
    rw [ReachesEnd] at hend
    simp only [if_neg hend]
    exact hzero

/-- An acknowledgement has no bearing on it. -/
theorem ReachesUpTo.acknowledge (h : f.ReachesUpTo i) (hspans : ∃ a b, f.Spans a b)
    (sent : PendingSend) : (f.acknowledge sent).1.ReachesUpTo i := by
  have hiff := f.reachesEnd_acknowledge sent
  refine h.grows (f.grows_acknowledge sent) hspans hiff.2 fun hzero => .inl ?_
  rw [Feed.acknowledge]
  split
  · exact (Graph.size_congr (Graph.keys_acknowledge _ _)).trans hzero
  · exact hzero

theorem ReachesUpTo.congr (h : f.ReachesUpTo i) (hr : f'.remote = f.remote)
    (hl : f'.loaded = f.loaded) : f'.ReachesUpTo i := by
  rw [ReachesUpTo, reachesEnd_congr hr hl, hl]
  exact h

end Feed

end Scrollback
