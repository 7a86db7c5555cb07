import Scrollback.Proofs.Feed.Way
import Scrollback.Proofs.Session.Faultless
import Scrollback.Proofs.Session.Target
/-!
# Opening at a message

A session that is opened at a message of the history loads the page around it: half a page before
its place, and half a page from there on. With two messages to a page or more the message is among
them, and mounting goes there. Half of a shorter page is nothing, so the page around a message is
empty then, and mounting finds nothing to go to.

## Main definitions

* `Session.MountsAt` — mounting goes to a message.

## Main statements

* `Feed.contains_loadAround_iff` — the page around a message holds it if it holds anything.
* `Session.mountsAt_of_contains` — mounting goes to a target that is loaded.
* `Session.opened_at_target_iff` — a session that is opened at a message loads it just if pages have
  two messages at least, and goes there then.
-/

namespace Scrollback

namespace Feed

variable {f f' : Feed} {i : MessageIndex} {n : Nat}

/-- In an empty feed the page around a message of the history reaches half a page to both sides of
its position. -/
theorem contains_loadAround_iff (h : f.loaded.entries = []) (hi : f.remote.contains i = true)
    (hf : f.loadAround i = .ok (f', n)) :
    f'.loaded.contains i = true ↔ 2 ≤ f.config.pageSize := by
  have hs := loadAround_of_empty h hf
  obtain ⟨e, he, rfl⟩ := Graph.mem_keys_iff.1 (Graph.contains_iff_mem_keys.1 hi)
  obtain ⟨p, hp⟩ := List.mem_iff_getElem?.1 he
  have hsize : p < f.remote.size := (List.getElem?_eq_some_iff.1 hp).1
  rw [Graph.rank_eq_of_entry hp] at hs
  rw [Graph.contains_iff_mem_keys, Graph.mem_keys_iff, hs.entries, (loadAround_frame hf).1]
  simp only [Graph.mem_slice]
  constructor
  · rintro ⟨x, ⟨q, hlo, hhi, -⟩, -⟩
    omega
  · intro hpage
    exact ⟨e, ⟨p, by omega, by omega, hp⟩, rfl⟩

/-- It is empty otherwise. -/
theorem isEmpty_loadAround (h : f.loaded.entries = []) (hf : f.loadAround i = .ok (f', n))
    (hpage : f.config.pageSize < 2) : f'.loaded.size = 0 := by
  rw [(loadAround_of_empty h hf).size_loaded]
  omega

end Feed

namespace Session

variable {s s' : Session} {o : Options} {file : Except FileError ByteArray} {now : Instant}
  {remote : Graph} {target : Option MessageIndex} {t : MessageIndex} {rows : Nat}

/-! ## Mounting -/

theorem contains_of_shows (h : s.shows t = true) : s.graph.contains t = true := by
  rw [shows] at h
  split at h
  · next p _ hp _ =>
    rw [Graph.contains_iff_mem_keys, ← Graph.positionOf?_isSome_iff, hp]
    rfl
  · cases h

/-- Mounting, with so many rows for the list, goes to a message: the window begins by scrolling
there, has reached its target, and shows the message. -/
structure MountsAt (s : Session) (rows : Nat) (t : MessageIndex) (s' : Session) : Prop where
  mount : s.mount rows = .ok s'
  /-- The transition of the window that mounts it. -/
  scrolls : let x := s.mapWindow fun w => { w with viewport.height := rows }
    ∃ tr es, step x.window.state .mount (x.window.inputs x.graph x.unread x.now) = .ok tr ∧
      tr.effects = .scrollToIndex t :: es
  reached : s'.window.state.targetReached = true
  shows : s'.shows t = true

/-- **Mounting goes to a target that is loaded.** -/
theorem mountsAt_of_contains (hstate : s.window.state = {}) (htarget : s.window.target = some t)
    (hloaded : s.graph.contains t = true) (hs : s.Fits) (rows : Nat) :
    ∃ s', s.MountsAt rows t s' := by
  obtain ⟨p, ht⟩ := Graph.exists_position hloaded
  let x := s.mapWindow fun w => { w with viewport.height := rows }
  have hfits : x.Fits := ⟨hs.exists_spans, hs.policy⟩
  obtain ⟨s', hmount⟩ : ∃ s', s.mount rows = .ok s' := by
    obtain ⟨y, hy, -⟩ := hfits.exists_dispatch .mount
    rw [mount, hy]
    exact ⟨_, rfl⟩
  have hscroll : s.window.state.scroll = .initializing := by rw [hstate]
  obtain ⟨hrests, hfeed⟩ := mount_rests hscroll (by rw [hstate]) htarget ht hmount
  refine ⟨s', hmount, ?_, hrests.reached, ?_⟩
  · obtain ⟨tr, htr⟩ := exists_step (x.window.inputs x.graph x.unread x.now) hfits.loaded
      s.window.state .mount
    have haccepts : s.window.state.accepts .mount = true := by
      rw [hstate]
      rfl
    obtain ⟨-, -, es, heffects, -⟩ := step_mount_target haccepts hscroll htarget
      (Graph.positionOf?_eq_some_iff.2 ht) htr
    exact ⟨tr, es, htr, heffects⟩
  · have hkeys : s'.graph.keys = [] ++ s.graph.keys ++ [] := by
      rw [List.nil_append, List.append_nil, graph, hfeed, graph]
    cases hmode : s.modeAt rows p with
    | initializing => exact absurd hmode (s.modeAt_ne_initializing rows p)
    | freeScroll => exact shows_of_free hkeys ht hrests.viewport hmode
    | lockedToBottom =>
      -- the view is kept at the newest message only where that leaves the target on screen
      have hnewer : ¬ max rows 1 ≤ s.graph.newer t := by
        rw [← modeAt_eq_freeScroll_iff ht, hmode]
        exact ScrollMode.noConfusion
      refine (shows_iff_of_locked hkeys ht hrests.viewport hmode).2 ?_
      rw [graph, hfeed]
      exact Nat.not_le.1 hnewer

/-! ## Opening -/

theorem ofOptions_eq (hhistory : history o file now = .ok (.ok remote))
    (htarget : o.target = .ok target) :
    ofOptions o file now = (ofHistory o remote target now).map .ok := by
  simp only [ofOptions, hhistory, htarget, bind, Except.bind]
  cases ofHistory o remote target now <;> rfl

/-- The feed that options ask for, with nothing loaded. -/
def emptyFeed (o : Options) (remote : Graph) : Feed := { remote, config := o.feedConfig }

/-- A session that is opened at a message has the page around it loaded, and nothing has happened
yet. -/
theorem ofHistory_at (h : ofHistory o remote (some t) now = .ok s) :
    (∃ n, (emptyFeed o remote).loadAround t = .ok (s.feed, n)) ∧ s.feed.remote = remote ∧
      s.window = { target := some t } := by
  obtain ⟨⟨feed, n⟩, hfeed, hs⟩ := Checked.bind_eq_ok.1 h
  have hfeed : (emptyFeed o remote).loadAround t = .ok (feed, n) := hfeed
  cases hs
  exact ⟨⟨n, hfeed⟩, (Feed.loadAround_frame hfeed).1, rfl⟩

/-- A history that can be held is opened at any message, whatever the length of a page. -/
theorem exists_ofHistory_at (hpage : o.pageSize < Count.bound)
    (hsize : remote.size ≤ History.messageLimit) :
    ∃ s, ofHistory o remote (some t) now = .ok s := by
  have hhalf : max o.pageSize 1 / 2 ≤ Count.bound / 2 := by
    have hone : 1 ≤ Count.bound := by decide
    omega
  have hlimit : History.messageLimit + Count.bound / 2 < Count.bound := by decide
  have hrank := remote.rank_le_size t
  have hload : (emptyFeed o remote).loadAround t = .ok _ :=
    Feed.loadAround_eq_ok.2 ⟨by simp only [emptyFeed, Options.feedConfig]; omega, rfl⟩
  exact ⟨_, congrArg (· >>= _) hload⟩

/-- A history that can be held leaves room for the distances of the window. -/
theorem fits_of_ofHistory (h : ofHistory o remote (some t) now = .ok s)
    (hsize : remote.size ≤ History.messageLimit) : s.Fits := by
  obtain ⟨⟨n, hload⟩, hremote, hwindow⟩ := ofHistory_at h
  refine ⟨⟨_, _, Feed.loadAround_of_empty rfl hload⟩, ?_⟩
  have hlimit : ({} : Policy).Fits History.messageLimit := by decide
  rw [hremote, hwindow]
  exact hlimit.mono hsize

/-- **Opening at a message.** Options name a message of the history to open at. Then the session
opens, unless the numbers are out of range, and has the page around that message: the message is
loaded just if pages have two messages at least, and nothing is otherwise. Mounting, in a list of
any height, goes there just if it is loaded. -/
theorem opened_at_target_iff (hhistory : history o file now = .ok (.ok remote))
    (htarget : o.target = .ok (some t)) (ht : remote.contains t = true) :
    (o.pageSize < Count.bound → remote.size ≤ History.messageLimit →
      ∃ s, ofOptions o file now = .ok (.ok s)) ∧
    ∀ s, ofOptions o file now = .ok (.ok s) → s.feed.remote = remote ∧
      (s.graph.contains t = true ↔ 2 ≤ o.pageSize) ∧ (o.pageSize < 2 → s.graph.size = 0) ∧
      (remote.size ≤ History.messageLimit →
        ∀ rows, (∃ s', s.MountsAt rows t s') ↔ 2 ≤ o.pageSize) := by
  rw [ofOptions_eq hhistory htarget]
  constructor
  · intro hpage hsize
    obtain ⟨s, hs⟩ := exists_ofHistory_at hpage hsize
    exact ⟨s, by rw [hs]; rfl⟩
  · intro s hs
    obtain ⟨s, hs, heq⟩ := Checked.map_eq_ok.1 hs
    cases heq
    obtain ⟨⟨n, hload⟩, hremote, hwindow⟩ := ofHistory_at hs
    have hcontains : s.graph.contains t = true ↔ 2 ≤ o.pageSize := by
      rw [graph, Feed.contains_loadAround_iff rfl ht hload]
      simp only [emptyFeed, Options.feedConfig]
      omega
    refine ⟨hremote, hcontains, fun hpage => ?_, fun hsize rows => ?_⟩
    · refine Feed.isEmpty_loadAround rfl hload ?_
      simp only [emptyFeed, Options.feedConfig]
      omega
    · rw [← hcontains]
      constructor
      · rintro ⟨s', hs'⟩
        have hgraph : s'.graph = s.graph := by rw [graph, mount_feed hs'.mount, graph]
        exact hgraph ▸ contains_of_shows hs'.shows
      · intro hloaded
        exact mountsAt_of_contains (by rw [hwindow]) (by rw [hwindow]) hloaded
          (fits_of_ofHistory hs hsize) rows

/-- The fourth of nine messages, with two messages to a page. -/
theorem opened_at_target_iff_two : ∃ s s' t, ofOptions
    { messages := 9, pageSize := 2, scrollTo := some t } (.error .notFound)
      ⟨⟨2025, 6, 1⟩, 0, 0⟩ = .ok (.ok s) ∧
    s.feed.remote.size = 9 ∧ s.graph.contains t = true ∧ s.MountsAt 10 t s' := by
  let now : Instant := ⟨⟨2025, 6, 1⟩, 0, 0⟩
  let t : MessageIndex := ⟨4, by decide⟩
  let o : Options := { messages := 9, pageSize := 2, scrollTo := some t }
  have hmade : (History.synthetic 9 o.feedConfig.identity now).toOption.any
      (fun g => decide (g.contains t = true ∧ g.size = 9)) = true := by decide +kernel
  obtain ⟨remote, hremote, hmade⟩ := (Option.any_eq_true ..).1 hmade
  obtain ⟨ht, hsize⟩ := of_decide_eq_true hmade
  have hhistory : history o (.error .notFound) now = .ok (.ok remote) :=
    congrArg (Except.map Except.ok) (toOption_eq_some.1 hremote)
  have hlimit : remote.size ≤ History.messageLimit := by
    rw [hsize]
    decide
  obtain ⟨hopens, hopened⟩ := opened_at_target_iff hhistory rfl ht
  obtain ⟨s, hs⟩ := hopens (by decide) hlimit
  obtain ⟨hfeed, hcontains, -, hmounts⟩ := hopened s hs
  obtain ⟨s', hs'⟩ := (hmounts hlimit 10).2 (by decide)
  exact ⟨s, s', t, hs, hfeed.symm ▸ hsize, hcontains.2 (by decide), hs'⟩

/-- The same message is not loaded with one message to a page, and mounting does not go there. -/
theorem exists_target_not_loaded : ∃ (o : Options) (s : Session) (t : MessageIndex),
    o.pageSize = 1 ∧ ofOptions o (.error .notFound) ⟨⟨2025, 6, 1⟩, 0, 0⟩ = .ok (.ok s) ∧
      o.target = .ok (some t) ∧ s.feed.remote.contains t = true ∧ s.graph.contains t = false ∧
        ∀ rows s', ¬ s.MountsAt rows t s' := by
  let t : MessageIndex := ⟨4, by decide⟩
  let o : Options := { messages := 9, pageSize := 1, scrollTo := some t }
  have hopened : (ofOptions o (.error .notFound) ⟨⟨2025, 6, 1⟩, 0, 0⟩).toOption.any (fun r =>
      r.toOption.any fun s => decide
        (s.feed.remote.contains t = true ∧ s.graph.contains t = false)) = true := by
    decide +kernel
  obtain ⟨r, hr, hopened⟩ := (Option.any_eq_true ..).1 hopened
  obtain ⟨s, hs, hopened⟩ := (Option.any_eq_true ..).1 hopened
  obtain ⟨hremote, hnot⟩ := of_decide_eq_true hopened
  cases r with
  | error e => cases hs
  | ok s₁ =>
    cases hs
    refine ⟨o, s, t, rfl, toOption_eq_some.1 hr, rfl, hremote, hnot, fun rows s' hs' => ?_⟩
    have hloaded := contains_of_shows hs'.shows
    rw [graph, mount_feed hs'.mount, ← graph, hnot] at hloaded
    cases hloaded

end Session

end Scrollback
