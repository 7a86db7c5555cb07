import Scrollback.Proofs.Feed.Growth
import Scrollback.Proofs.Graph.Boundary
import Scrollback.Proofs.Graph.Position
/-!
# The end of the history

The loaded part comes to the end of the history when its newest message is the newest of all. New
messages and acknowledgements do not bear on that. It comes about by a page toward newer messages
that leaves nothing to load, by a jump to the newest message, or by a page toward older messages
where nothing was loaded at all.

## Main definitions

* `Feed.ReachesEnd` — the newest loaded message is the newest of all.
* `Feed.catchesUp` — an answer that brings the loaded part to the end.
* `Feed.Live` — new messages join the loaded part at once.

## Main statements

* `Feed.reachesEnd_append`, `Feed.reachesEnd_acknowledge` — what does not bear on it.
* `Feed.reachesEnd_jumpToLatest`, `Feed.reachesEnd_settle` — how it comes about.
* `Feed.ReachesEnd.live` — at the end of the history the loaded part is live.
* `Feed.ReachesEnd.unreadBoundary?` — at the end the loaded part knows the history's boundary.
* `Feed.Grows.exists_keys` — a loaded part that loses nothing grows at its ends.
* `Feed.Grows.isPost_loaded` — it keeps its posts.
-/

namespace Scrollback.Feed

variable {f f' : Feed} {a b n : Nat} {d : Direction} {i : MessageIndex}

/-- The newest loaded message is the newest of all. -/
def ReachesEnd (f : Feed) : Prop := f.loaded.largest? = f.remote.largest?

instance : Decidable f.ReachesEnd := inferInstanceAs (Decidable (_ = _))

theorem reachesEnd_congr (hr : f'.remote = f.remote) (hl : f'.loaded = f.loaded) :
    f'.ReachesEnd ↔ f.ReachesEnd := by
  rw [ReachesEnd, ReachesEnd, hr, hl]

/-- A span reaches the end where it stops there and holds something, or where nothing is to be
held. -/
theorem Spans.reachesEnd_iff (h : f.Spans a b) :
    f.ReachesEnd ↔ (a < b ∧ b = f.remote.size) ∨ f.remote.size = 0 := by
  have hle := h.le
  have hsize := h.le_size
  constructor
  · intro hend
    have hb := h.eq_size_of_largest?_eq hend
    rcases Nat.lt_or_eq_of_le hle with hab | rfl
    · exact .inl ⟨hab, hb⟩
    · rw [ReachesEnd, largest?_eq_none h.entries_eq_nil, eq_comm] at hend
      exact .inr (Graph.largest?_eq_none_iff.1 hend)
  · rintro (⟨hab, rfl⟩ | hzero)
    · obtain ⟨e, he, hlarge⟩ := h.largest? hab
      obtain ⟨last, hlast, hend⟩ := f.remote.exists_last (by omega)
      rw [he] at hlast
      cases hlast
      rw [ReachesEnd, hlarge, hend]
    · obtain rfl : a = b := by omega
      rw [ReachesEnd, largest?_eq_none h.entries_eq_nil, Graph.largest?_eq_none_iff.2 hzero]

/-! ## New messages -/

/-- A new message joins the loaded part exactly where that reaches the end. -/
theorem reachesEnd_append (hspans : ∃ a b, f.Spans a b) {m : Message}
    (hf : f.append m = .ok (f', i)) : f'.ReachesEnd ↔ f.ReachesEnd := by
  obtain ⟨a, b, hs⟩ := hspans
  have hs' := hs.append hf
  have hsize : f'.remote.size = f.remote.size + 1 := by
    rw [Graph.size, remote_entries_append hf, List.length_append, List.length_singleton, Graph.size]
  have hle := hs.le
  have hb := hs.le_size
  rw [hs'.reachesEnd_iff, hsize]
  split
  · next hend =>
    exact ⟨fun _ => hend, fun _ => .inl ⟨by omega, rfl⟩⟩
  · next hend =>
    exact ⟨fun h => by omega, fun h => absurd h hend⟩

theorem ReachesEnd.size_loaded_append (h : f.ReachesEnd) (hspans : ∃ a b, f.Spans a b) {m : Message}
    (hf : f.append m = .ok (f', i)) : f'.loaded.size = f.loaded.size + 1 := by
  obtain ⟨a, b, hs⟩ := hspans
  have hs' := hs.append hf
  obtain rfl := hs.eq_size_of_largest?_eq h
  have hle := hs.le
  rw [ReachesEnd] at h
  rw [if_pos h] at hs'
  rw [hs'.size_loaded, hs.size_loaded]
  omega

theorem reachesEnd_acknowledge (f : Feed) (sent : PendingSend) :
    (f.acknowledge sent).1.ReachesEnd ↔ f.ReachesEnd := by
  rw [acknowledge]
  split
  · simp only [ReachesEnd, Graph.largest?_acknowledge]
  · exact Iff.rfl

/-! ## Pages -/

/-- A jump to the newest message comes to the end, unless pages are empty. -/
theorem reachesEnd_jumpToLatest (hspans : ∃ a b, f.Spans a b) :
    f.jumpToLatest.1.ReachesEnd ↔ f.ReachesEnd ∨ 0 < f.config.pageSize := by
  obtain ⟨a, b, hs⟩ := hspans
  have hle := hs.le
  have hb := hs.le_size
  have hstart : f.latestStart = f.remote.size - f.config.pageSize := rfl
  have hsize : f.jumpToLatest.1.remote.size = f.remote.size := by rw [f.jumpToLatest_frame.1]
  cases hpage : f.jumpToLatest with
  | mk f' page =>
    rw [hpage] at hsize
    cases page with
    | extended added =>
      rcases Nat.lt_or_eq_of_le hle with hab | rfl
      · obtain ⟨hlatest, hs'⟩ := hs.jumpToLatest_extended hab hpage
        rw [hs'.reachesEnd_iff, hs.reachesEnd_iff, hsize]
        omega
      · have hempty := hs.entries_eq_nil
        have hs' : f'.Spans f.latestStart f.remote.size := by
          rw [jumpToLatest, if_pos (reachesLatest_of_empty hempty)] at hpage
          cases hpage
          exact loadLatest_of_empty hempty
        rw [hs'.reachesEnd_iff, hs.reachesEnd_iff, hsize]
        omega
    | replaced =>
      obtain ⟨hfar, hs'⟩ := jumpToLatest_replaced hpage
      have hab : a < b := by
        rcases Nat.lt_or_eq_of_le hle with hab | rfl
        · exact hab
        · rw [reachesLatest_of_empty hs.entries_eq_nil] at hfar
          cases hfar
      have hbefore : ¬ f.latestStart ≤ b := by
        rw [← hs.reachesLatest_iff hab, hfar]
        exact Bool.false_ne_true
      rw [hs'.reachesEnd_iff, hs.reachesEnd_iff, hsize]
      omega

/-- The answer brings the loaded part to the end. -/
def catchesUp (f : Feed) : Direction → FetchResult → Bool
  | .newer, .loaded .exhausted => !f.loaded.isEmpty
  | .older, .loaded _ => f.loaded.isEmpty && decide (0 < f.config.pageSize)
  | _, _ => false

theorem catchesUp_newer_iff {o : FetchOutcome} :
    f.catchesUp .newer (.loaded o) = true ↔ o = .exhausted ∧ f.loaded.isEmpty = false := by
  cases o <;> simp [catchesUp]

theorem catchesUp_older_iff {o : FetchOutcome} :
    f.catchesUp .older (.loaded o) = true ↔
      f.loaded.isEmpty = true ∧ 0 < f.config.pageSize := by
  simp [catchesUp]

theorem Spans.isEmpty_iff (h : f.Spans a b) : f.loaded.isEmpty = true ↔ a = b := by
  have hle := h.le
  rw [Graph.isEmpty, List.isEmpty_iff, ← List.length_eq_zero_iff, ← Graph.size, h.size_loaded]
  omega

/-- A page that is served leads to the end if it leaves nothing newer to load, or if it is the
first page of all. -/
theorem reachesEnd_serve (hspans : ∃ a b, f.Spans a b) {o : FetchOutcome}
    (hf : f.serve d = .ok (f', o)) :
    f'.ReachesEnd ↔ f.ReachesEnd ∨ f.catchesUp d (.loaded o) = true := by
  obtain ⟨a, b, hs⟩ := hspans
  have hle := hs.le
  have hb := hs.le_size
  have hremote := (serve_frame hf).1
  cases d with
  | older =>
    rw [catchesUp_older_iff, hs.isEmpty_iff]
    rcases Nat.lt_or_eq_of_le hle with hab | rfl
    · rw [(hs.serve_older hab hf).1.reachesEnd_iff, hs.reachesEnd_iff, hremote]
      omega
    · rw [(serve_older_of_empty hs.entries_eq_nil hf).1.reachesEnd_iff, hs.reachesEnd_iff, hremote]
      omega
  | newer =>
    rw [catchesUp_newer_iff, ← Bool.not_eq_true, hs.isEmpty_iff]
    rcases Nat.lt_or_eq_of_le hle with hab | rfl
    · obtain ⟨hs', hall⟩ := hs.serve_newer hab hf
      rw [hs'.reachesEnd_iff, hs.reachesEnd_iff, hremote, hall]
      omega
    · rw [(serve_newer_of_empty hs.entries_eq_nil hf).reachesEnd_iff, hs.reachesEnd_iff, hremote]
      omega

/-- However a request settles, the loaded part comes to the end by an answer that brings it
there, and by no other. -/
theorem reachesEnd_settle (hspans : ∃ a b, f.Spans a b) (d : Direction) :
    (f.settle d).1.ReachesEnd ↔
      f.ReachesEnd ∨ ∃ r, (f.settle d).2 = .ok r ∧ f.catchesUp d r = true := by
  rcases f.settle_cases d with ⟨g, e, hg, heq⟩ | ⟨g, o, hserve, -, heq⟩ | ⟨g, fault, hg, heq⟩
  · rw [heq, reachesEnd_congr hg.remote hg.loaded]
    refine ⟨.inl, fun h => h.resolve_right ?_⟩
    rintro ⟨r, hr, hup⟩
    cases hr
    cases d <;> cases hup
  · rw [heq, reachesEnd_serve (f.grows_counted.exists_spans hspans) hserve]
    simp only [Except.ok.injEq, exists_eq_left']
    rfl
  · rw [heq, reachesEnd_congr hg.remote hg.loaded]
    refine ⟨.inl, fun h => h.resolve_right ?_⟩
    rintro ⟨r, hr, -⟩
    cases hr

/-- Nothing is loaded up to the end only if there is nothing to load. -/
theorem ReachesEnd.size_remote_eq_zero (h : f.ReachesEnd) (hzero : f.loaded.size = 0) :
    f.remote.size = 0 := by
  rw [ReachesEnd, Graph.largest?_eq_none_iff.2 hzero, eq_comm] at h
  exact Graph.largest?_eq_none_iff.1 h

/-- A jump to the newest message leaves nothing loaded only where nothing was. -/
theorem size_loaded_eq_zero_of_jumpToLatest (hspans : ∃ a b, f.Spans a b)
    (hpage : 0 < f.config.pageSize) (hzero : f.jumpToLatest.1.loaded.size = 0) :
    f.loaded.size = 0 := by
  have hend := (reachesEnd_jumpToLatest hspans).2 (.inr hpage)
  have hremote := hend.size_remote_eq_zero hzero
  rw [f.jumpToLatest_frame.1] at hremote
  obtain ⟨a, b, hs⟩ := hspans
  have hle := hs.le_size
  rw [hs.size_loaded]
  omega

/-! ## New messages at the end -/

/-- A loaded part that reaches the end lacks only older messages. -/
theorem ReachesEnd.exists_append (h : f.ReachesEnd) (hspans : ∃ a b, f.Spans a b) :
    ∃ pre, f.remote.entries = pre ++ f.loaded.entries := by
  obtain ⟨a, b, hs⟩ := hspans
  obtain rfl := hs.eq_size_of_largest?_eq h
  refine ⟨f.remote.entries.take a, ?_⟩
  rw [hs.entries, Graph.slice_size, List.take_append_drop]

/-- There is an index for one more message. -/
def HasNext (f : Feed) : Prop := ∀ i, f.remote.largest? = some i → i.seq + 1 < Count.bound

/-- A message is appended exactly if there is an index for it. -/
theorem exists_append_iff {m : Message} : (∃ f' i, f.append m = .ok (f', i)) ↔ f.HasNext := by
  rw [append, HasNext]
  cases f.remote.largest? with
  | none => simp [bind, Except.bind, pure, Except.pure]
  | some k =>
    rw [Option.elim_some, MessageIndex.next]
    by_cases hnext : k.seq + 1 < Count.bound
    · simp [hnext, bind, Except.bind, pure, Except.pure]
    · simp [hnext, bind, Except.bind]

theorem ReachesEnd.loaded_entries_append (h : f.ReachesEnd) (hspans : ∃ a b, f.Spans a b)
    {m : Message} (hf : f.append m = .ok (f', i)) :
    f'.loaded.entries = f.loaded.entries ++ [⟨i, .post m⟩] := by
  obtain ⟨pre, hpre⟩ := h.exists_append hspans
  obtain ⟨hlt, rfl⟩ := append_eq_ok hf
  have hloaded : ∀ e ∈ f.loaded.entries, e.index < i := by
    intro e he
    apply hlt
    rw [hpre]
    exact List.mem_append_right _ he
  rw [ReachesEnd] at h
  simp only [if_pos h]
  exact Graph.entries_insert_of_forall_lt _ hloaded

/-- New messages join the loaded part at once, whoever writes them, as long as there is an index for
them. -/
structure Live (f : Feed) : Prop where
  receive : f.HasNext → ∀ author text now, ∃ f' i, f.receive author text now = .ok (f', i) ∧
    f'.loaded.entries = f.loaded.entries ++ [⟨i, .post (.ofText author text now)⟩]
  send : f.HasNext → ∀ text now, ∃ f' sent, f.send text now = .ok (f', sent) ∧
    f'.loaded.entries = f.loaded.entries ++
      [⟨sent.index, .post (Message.ofText f.config.identity text now).asPending⟩]

/-- **A loaded part that reaches the end is live.** -/
theorem ReachesEnd.live (h : f.ReachesEnd) (hspans : ∃ a b, f.Spans a b) : f.Live where
  receive := fun hnext author text now => by
    obtain ⟨f', i, happend⟩ := exists_append_iff.2 hnext
    exact ⟨f', i, happend, h.loaded_entries_append hspans happend⟩
  send := fun hnext text now => by
    obtain ⟨f', i, happend⟩ := exists_append_iff.2 hnext
    have hloaded := h.loaded_entries_append hspans happend
    rw [Feed.send, happend]
    exact ⟨_, _, rfl, hloaded⟩

/-! ## The boundary at the end -/

/-- A loaded message stands in the history, and is a post there if it is one in the loaded part. -/
theorem isPost_of_loaded (hspans : ∃ a b, f.Spans a b) (hi : i ∈ f.loaded.keys) :
    i ∈ f.remote.keys ∧ f.remote.isPost i = f.loaded.isPost i := by
  obtain ⟨a, b, hs⟩ := hspans
  have hget := Graph.get?_eq_of_entries_eq_slice hs.entries hi
  constructor
  · rw [← Graph.contains_iff_mem_keys] at hi ⊢
    rwa [Graph.contains, ← hget]
  · rw [Graph.isPost, Graph.post?, ← hget]
    rfl

/-- What is loaded up to the end tells the boundary of the whole history. -/
theorem ReachesEnd.unreadBoundary? (h : f.ReachesEnd) (hspans : ∃ a b, f.Spans a b)
    (hn : n ≤ f.loaded.size) : f.loaded.unreadBoundary? n = f.remote.unreadBoundary? n := by
  obtain ⟨pre, hpre⟩ := h.exists_append hspans
  exact Graph.unreadBoundary?_of_suffix hpre hn

/-! ## Growth at the ends -/

/-- A loaded part that loses nothing grows at its ends. -/
theorem Grows.exists_keys (hg : Grows f f') (hspans : ∃ a b, f.Spans a b) :
    ∃ pre post, f'.loaded.keys = pre ++ f.loaded.keys ++ post := by
  obtain ⟨a, b, hs⟩ := hspans
  rcases Nat.lt_or_eq_of_le hs.le with hab | rfl
  · obtain ⟨a', b', ha, hb, hs'⟩ := hg.spans a b hab hs
    have hold : f'.remote.keysIn a b = f.loaded.keys := by
      rw [Graph.keysIn_of_prefix hg.keys hs.le_size, Graph.keys, hs.entries, Graph.keysIn]
    refine ⟨f'.remote.keysIn a' a, f'.remote.keysIn b b', ?_⟩
    rw [← hold, Graph.keysIn_append ha hs.le, Graph.keysIn_append (Nat.le_trans ha hs.le) hb,
      Graph.keys, hs'.entries, Graph.keysIn]
  · refine ⟨f'.loaded.keys, [], ?_⟩
    rw [Graph.keys, Graph.keys, hs.entries_eq_nil, List.map_nil, List.append_nil, List.append_nil]

theorem Grows.size_loaded_le (hg : Grows f f') (hspans : ∃ a b, f.Spans a b) :
    f.loaded.size ≤ f'.loaded.size := by
  obtain ⟨pre, post, hkeys⟩ := hg.exists_keys hspans
  rw [Graph.size_eq_length_keys, Graph.size_eq_length_keys, hkeys, List.length_append,
    List.length_append]
  omega

/-- A loaded part that loses nothing and is no larger than before has the same messages. -/
theorem Grows.keys_loaded_eq (hg : Grows f f') (hspans : ∃ a b, f.Spans a b)
    (hsize : f'.loaded.size ≤ f.loaded.size) : f'.loaded.keys = f.loaded.keys := by
  obtain ⟨pre, post, hkeys⟩ := hg.exists_keys hspans
  refine Graph.keys_eq_of_subset ?_ hsize
  rw [hkeys]
  exact fun i hi => List.mem_append_left _ (List.mem_append_right _ hi)

/-- A loaded part that loses nothing keeps its posts. -/
theorem Grows.isPost_loaded (hg : Grows f f') (hspans : ∃ a b, f.Spans a b)
    (hi : f.loaded.isPost i = true) : f'.loaded.isPost i = true := by
  have hkey := Graph.mem_keys_of_isPost hi
  obtain ⟨hremote, hpost⟩ := isPost_of_loaded hspans hkey
  obtain ⟨pre, post, hkeys⟩ := hg.exists_keys hspans
  have hkey' : i ∈ f'.loaded.keys := by
    rw [hkeys]
    exact List.mem_append_left _ (List.mem_append_right _ hkey)
  rw [← (isPost_of_loaded (hg.exists_spans hspans) hkey').2, hg.posts i hremote, hpost, hi]

/-- A jump that joins the newest page to the loaded part tells how many messages it adds. -/
theorem size_jumpToLatest {added : Nat} (h : f.jumpToLatest.2 = .extended added) :
    f.jumpToLatest.1.loaded.size = f.loaded.size + added := by
  rw [jumpToLatest] at h ⊢
  split at h
  · next hreaches =>
    cases h
    rw [if_pos hreaches]
    exact f.loaded.size_extend _
  · cases h

end Scrollback.Feed
