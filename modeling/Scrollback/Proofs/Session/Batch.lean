import Scrollback.Proofs.Session.Faultless
/-!
# News that is heard together

A message that comes in while the reader looks at the newest one is read at once, if the news of it
is heard before the next message comes in. Where several messages have come in by then, the first
news brings all of them on screen and counts only one of them. The others are counted afterwards,
one by one, by a window that finds no more messages than before and so passes over the reader.

## Main definitions

* `Session.CaughtUp` — the reader looks at the newest message and has read everything.
* `Session.Receives` — so it is, while news waits.
* `Session.Abreast` — the window has seen all messages and knows what is unread of them.

## Main statements

* `Session.Receives.hear` — the first news has everything read.
* `Session.Abreast.hear` — news of a message that was seen before leaves it unread.
* `Session.hear_together` — all messages but one stay unread.
-/

namespace Scrollback

/-- The move is none of the reader's, and nothing is heard. -/
def Move.isBackground : Move → Bool
  | .perform _ | .wait _ => true
  | _ => false

namespace Session

variable {s s' a x y : Session} {m : Move} {ms : List Move} {e : Event} {es more : List Event}
  {h h' : List (Session × Move)} {i : MessageIndex} {n : Nat}

/-! ## Messages come in -/

/-- The reader looks at the newest message and has read everything. -/
structure CaughtUp (s : Session) : Prop where
  mounted : s.window.state.isMounted = true
  focused : s.window.focused = true
  active : s.window.state.idle = false
  locked : s.window.state.scroll = .lockedToBottom
  near : 0 < s.window.policy.dismissOffset
  read : s.unread = 0
  reachesEnd : s.feed.ReachesEnd

theorem caughtUp_iff : s.CaughtUp ↔ s.window.state.isMounted = true ∧ s.window.focused = true ∧
    s.window.state.idle = false ∧ s.window.state.scroll = .lockedToBottom ∧
      0 < s.window.policy.dismissOffset ∧ s.unread = 0 ∧ s.feed.ReachesEnd :=
  ⟨fun ⟨a, b, c, d, e, f, g⟩ => ⟨a, b, c, d, e, f, g⟩,
    fun ⟨a, b, c, d, e, f, g⟩ => ⟨a, b, c, d, e, f, g⟩⟩

instance : Decidable s.CaughtUp := decidable_of_iff _ caughtUp_iff.symm

/-- The reader has read everything but the messages of which news waits, which are the newest ones
and stand beyond those that the window has seen. -/
structure Receives (s : Session) : Prop where
  caughtUp : s.CaughtUp
  others : ∀ i, .arrived i true ∉ s.news
  closed : s.closed = true → s.waiting = []
  keys : s.waiting <:+ s.feed.remote.keys
  posts : ∀ i ∈ s.waiting, s.feed.remote.isPost i = true
  size : s.window.state.prevSize + s.waiting.length ≤ s.feed.loaded.size

theorem waiting_of_news (hnews : s.news = []) : s.waiting = [] := by
  rw [waiting, hnews]
  rfl

/-- A reader who has caught up when no news waits. -/
theorem CaughtUp.receives (hc : s.CaughtUp) (hrun : Run h s) (hnews : s.news = []) :
    s.Receives := by
  have hwaiting := waiting_of_news hnews
  have hsize := (hrun.tracks.size hc.mounted).resolve_right List.not_mem_nil
  exact
    { caughtUp := hc
      others := by simp [hnews]
      closed := fun _ => hwaiting
      keys := by rw [hwaiting]; exact List.nil_suffix
      posts := by simp [hwaiting]
      size := by rwa [hwaiting] }

/-- What work leaves behind besides the feed. -/
theorem perform_frame (s : Session) (t : Task) : (s.perform t).closed = s.closed ∧
    ∃ news, (s.perform t).news = s.news ++ news ∧ ∀ i, .arrived i true ∉ news := by
  have hnone : ∃ news, s.news = s.news ++ news ∧ ∀ i, .arrived i true ∉ news :=
    ⟨[], (List.append_nil _).symm, fun _ => List.not_mem_nil⟩
  unfold perform
  split
  · split <;> exact ⟨rfl, hnone⟩
  · split
    · rw [report]
      split
      · exact ⟨rfl, hnone⟩
      · exact ⟨rfl, _, rfl, by simp⟩
    · exact ⟨rfl, hnone⟩
  · dsimp only
    split
    · split
      · exact ⟨rfl, hnone⟩
      · exact ⟨rfl, _, rfl, by simp⟩
    · exact ⟨rfl, hnone⟩

/-- In the background the window is told of nothing. -/
theorem told_of_isBackground (hm : m.isBackground = true) (h : s.told m = some (a, es)) :
    es = [] ∧ a.window = s.window ∧ a.closed = s.closed ∧
      ∃ news, a.news = s.news ++ news ∧ ∀ i, .arrived i true ∉ news := by
  cases m with
  | perform k =>
    obtain ⟨t, -, heq⟩ := Option.map_eq_some_iff.1 h
    cases heq
    obtain ⟨hclosed, hnews⟩ := perform_frame { s with tasks := s.tasks.eraseIdx k } t
    exact ⟨rfl, perform_window _ t, hclosed, hnews⟩
  | wait ms =>
    cases h
    exact ⟨rfl, rfl, rfl, [], (List.append_nil _).symm, fun _ => List.not_mem_nil⟩
  | _ => cases hm

/-- A reader who has caught up goes on so in the same window, at the end of the history. -/
theorem CaughtUp.of_window (hc : s.CaughtUp) (hwindow : a.window = s.window)
    (hunread : a.unread = s.unread) (hend : a.feed.ReachesEnd) : a.CaughtUp where
  mounted := by rw [hwindow, hc.mounted]
  focused := by rw [hwindow, hc.focused]
  active := by rw [hwindow, hc.active]
  locked := by rw [hwindow, hc.locked]
  near := by
    rw [hwindow]
    exact hc.near
  read := by rw [hunread, hc.read]
  reachesEnd := hend

/-- Where no news is added the messages of which news waits stay the newest. -/
theorem Receives.of_waiting (hr : s.Receives) (hspans : ∃ a b, s.feed.Spans a b)
    (hgrows : s.feed.Grows a.feed) (hwindow : a.window = s.window) (hclosed : a.closed = s.closed)
    (hothers : ∀ i, .arrived i true ∉ a.news) (hunread : a.unread = s.unread)
    (hwaiting : a.waiting = s.waiting) (hend : a.feed.ReachesEnd)
    (hkeys : s.waiting <:+ a.feed.remote.keys) : a.Receives where
  caughtUp := hr.caughtUp.of_window hwindow hunread hend
  others := hothers
  closed := by
    rw [hclosed, hwaiting]
    exact hr.closed
  keys := by rwa [hwaiting]
  posts := by
    intro i hi
    rw [hwaiting] at hi
    rw [hgrows.posts i (hr.keys.subset hi)]
    exact hr.posts i hi
  size := by
    rw [hwindow, hwaiting]
    exact Nat.le_trans hr.size (hgrows.size_loaded_le hspans)

/-- A message that comes in joins those of which news waits. -/
theorem Receives.of_append {msg : Message} (hr : s.Receives) (hspans : ∃ a b, s.feed.Spans a b)
    (happend : s.feed.append msg = .ok (a.feed, i)) (hwindow : a.window = s.window)
    (hothers : ∀ i, .arrived i true ∉ a.news) (hunread : a.unread = s.unread)
    (hwaiting : a.waiting = s.waiting ++ [i]) (hopen : a.closed = false) : a.Receives where
  caughtUp := hr.caughtUp.of_window hwindow hunread
    ((Feed.reachesEnd_append hspans happend).2 hr.caughtUp.reachesEnd)
  others := hothers
  closed := by
    rw [hopen]
    exact Bool.noConfusion
  keys := by
    obtain ⟨pre, hpre⟩ := hr.keys
    rw [hwaiting, Feed.remote_keys_append happend, ← hpre, List.append_assoc]
    exact List.suffix_append _ _
  posts := by
    intro j hj
    rw [hwaiting] at hj
    rcases List.mem_append.1 hj with hj | hj
    · rw [(Feed.grows_append happend).posts j (hr.keys.subset hj)]
      exact hr.posts j hj
    · rw [List.mem_singleton.1 hj]
      exact Feed.isPost_of_append happend
  size := by
    have hgrown := hr.caughtUp.reachesEnd.size_loaded_append hspans happend
    have hold := hr.size
    rw [hwindow, hwaiting, List.length_append, List.length_singleton, hgrown]
    omega

/-- What comes in by a change in the background is a message of which news waits. -/
theorem Receives.change (hr : s.Receives) (hspans : ∃ a b, s.feed.Spans a b)
    (hc : Change s m a []) (hwindow : a.window = s.window) (hclosed : a.closed = s.closed)
    (hothers : ∀ i, .arrived i true ∉ a.news) : a.Receives := by
  have hsame := hr.of_waiting hspans hc.grows hwindow hclosed hothers
  have hend := hr.caughtUp.reachesEnd
  cases hc with
  | nothing _ _ _ hfeed hunread hwaiting =>
    exact hsame hunread hwaiting (hfeed ▸ hend) (hfeed ▸ hr.keys)
  | answers d _ _ hfeed hunread hwaiting =>
    apply hsame hunread hwaiting
    · rw [hfeed, Feed.reachesEnd_settle hspans d]
      exact .inl hend
    · rw [hfeed, Feed.settle_remote]
      exact hr.keys
  | acknowledges sent _ _ hfeed hunread hwaiting =>
    apply hsame hunread hwaiting
    · rw [hfeed, Feed.reachesEnd_acknowledge]
      exact hend
    · rw [hfeed, Feed.acknowledge_keys]
      exact hr.keys
  | adds _ msg i grown _ _ happend hremote hloaded _ _ hunread hwaiting hsilent =>
    apply hsame hunread hwaiting
    · rw [Feed.reachesEnd_congr hremote hloaded, Feed.reachesEnd_append hspans happend]
      exact hend
    · rw [hr.closed (hsilent rfl)]
      exact List.nil_suffix
  | announces msg i _ _ happend hunread hwaiting hopen =>
    exact hr.of_append hspans happend hwindow hothers hunread hwaiting (hclosed.trans hopen)

theorem Receives.move (hr : s.Receives) (hspans : ∃ a b, s.feed.Spans a b)
    (hback : m.isBackground = true) (hm : s.move m = some s') : s'.Receives := by
  obtain ⟨a, es, b, htold, htell, rfl⟩ := exists_told hm
  obtain ⟨rfl, hwindow, hclosed, news, hnews, hnone⟩ := told_of_isBackground hback htold
  have hsettle : b.settleMove m = b := by
    apply settleMove_of_ne
    rintro rows rfl
    cases hback
  cases htell
  rw [hsettle]
  refine hr.change hspans (told_change htold) hwindow hclosed ?_
  intro i
  rw [hnews, List.mem_append, not_or]
  exact ⟨hr.others i, hnone i⟩

theorem Receives.replay (hr : s.Receives) (hrun : Run h s)
    (hms : ∀ m ∈ ms, m.isBackground = true) (hs' : replay h s ms = some (h', s')) :
    s'.Receives := by
  induction ms generalizing h s with
  | nil =>
    cases hs'
    exact hr
  | cons m ms ih =>
    obtain ⟨s₁, hmove, hs'⟩ := Option.bind_eq_some_iff.1 hs'
    obtain ⟨hm, hms⟩ := List.forall_mem_cons.1 hms
    exact ih (hr.move hrun.tracks.exists_spans hm hmove) (hrun.move hmove) hms hs'

/-- The messages of which news waits are the newest loaded ones. -/
theorem Receives.waiting_suffix (hr : s.Receives) (hspans : ∃ a b, s.feed.Spans a b) :
    s.waiting <:+ s.graph.keys := by
  obtain ⟨pre, hpre⟩ := hr.caughtUp.reachesEnd.exists_append hspans
  have hkeys : s.graph.keys <:+ s.feed.remote.keys := by
    rw [Graph.keys, Graph.keys, hpre, List.map_append]
    exact List.suffix_append _ _
  have hsize := hr.size
  rw [Graph.size_eq_length_keys] at hsize
  exact List.suffix_of_suffix_length_le hr.keys hkeys (by rw [graph]; omega)

/-! ## What an update does -/

/-- A window that knows how many messages are loaded goes on knowing it. -/
theorem prevSize_of_handle (he : e ≠ .jumpToLatest) (hx : x.window.state.prevSize = x.graph.size)
    (hh : x.handle e = .ok (y, more)) : y.window.state.prevSize = y.graph.size := by
  have hgraph : y.graph = x.graph := by
    rw [graph, graph, handle_feed hh, feed_begun_of_ne he]
  cases haccepts : x.window.state.accepts e with
  | false =>
    obtain ⟨rfl, -⟩ := handle_of_not_accepts haccepts hh
    exact hx
  | true =>
    obtain ⟨t, ht, hwindow, -⟩ := handle_transition hh
    rw [hgraph, hwindow]
    rcases step_prevSize haccepts ht with hnow | ⟨-, -, hold⟩
    · exact hnow
    · exact hold.trans hx

/-- **Where a reader is at the end, what has arrived is read**: the window finds more messages than
before, and more of them unread. -/
theorem dispatch_reads (hm : x.window.state.isMounted = true)
    (hlocked : x.window.state.scroll = .lockedToBottom) (hactive : x.window.state.idle = false)
    (hfocused : x.window.focused = true) (hnear : 0 < x.window.policy.dismissOffset)
    (hunread : x.window.state.prevUnread < x.unread)
    (hsize : x.graph.size ≠ x.window.state.prevSize) (hy : x.dispatch .update = .ok y) :
    y.unread = 0 ∧ y.window.state.prevSize = y.graph.size := by
  have haccepts := WindowState.accepts_of_isMounted hm .update
  refine dispatch_tail (Q := (· ≠ .jumpToLatest))
    (P := fun y => y.unread = 0 ∧ y.window.state.prevSize = y.graph.size) ?_ ?_ hy
  · intro y more hh
    obtain ⟨t, ht, hwindow, hcount, -⟩ := handle_transition hh
    refine ⟨ne_jumpToLatest_of_handle hh, ?_, ?_⟩
    · rw [hcount, if_pos]
      exact dismissUnread_mem_step haccepts hlocked hactive hfocused hnear hunread hsize ht
    · obtain ⟨q, hq, rfl⟩ := step_watches haccepts ht
      rw [graph, handle_feed hh, feed_begun_of_ne Event.noConfusion, hwindow]
      exact hq.prevSize
  · rintro e y z more he hh ⟨hread, hseen⟩
    obtain ⟨t, -, -, hcount, -⟩ := handle_transition hh
    refine ⟨ne_jumpToLatest_of_handle hh, ?_, prevSize_of_handle he hseen hh⟩
    rw [hcount, hread]
    exact ite_self 0

/-- **A window that finds no more messages than before passes over the reader**: it only looks for
the boundary of what is unread. -/
theorem dispatch_counts (hm : x.window.state.isMounted = true)
    (hunread : x.window.state.prevUnread < x.unread)
    (hsize : x.graph.size = x.window.state.prevSize) (hy : x.dispatch .update = .ok y) :
    y.feed = x.feed ∧ y.unread = x.unread ∧ y.window.state.prevSize = x.graph.size ∧
      y.window.boundary? = x.graph.unreadBoundary? x.unread := by
  obtain ⟨t, ht, hepisode, heffects⟩ :=
    step_update_of_size_eq (x.window.inputs x.graph x.unread x.now)
      (WindowState.accepts_of_isMounted hm .update) hsize hunread
  have hcommands : t.effects.filterMap Effect.command? = [] := by
    rcases heffects with hnone | ⟨i, hgo⟩
    · rw [hnone, List.filterMap_nil]
    · rw [hgo]
      rfl
  have hh : x.handle .update = .ok (x.moved t, []) := by
    rw [handle_eq, ht, Except.map, hcommands, executeAll_nil]
  have hy : handleAll wake [.update] x = .ok y := hy
  rw [wake, handleAll_succ, hh] at hy
  cases hy
  exact ⟨rfl, rfl, congrArg Prod.fst hepisode, WindowState.visibleUnread_of_episode hepisode⟩

/-! ## News is heard -/

/-- The news of somebody else's message is taken, and makes it unread. -/
def countOne (s : Session) (news : List FeedEvent) : Session :=
  { s with news, unread := s.unread + 1 }

/-- The news of an acknowledgement changes nothing, and that of somebody else's message makes it
unread before the window is told. -/
theorem hear_cases (hm : s.move .hearNews = some s') (hothers : ∀ i, .arrived i true ∉ s.news) :
    (∃ sent, s.news = .acknowledged sent :: s'.news ∧ s' = { s with news := s'.news }) ∨
      ∃ i, s.news = .arrived i false :: s'.news ∧
        (s.countOne s'.news).dispatch .update = .ok s' := by
  rw [move] at hm
  split at hm
  · next e news hnews =>
    have hs' := toOption_eq_some.1 hm
    cases e with
    | acknowledged sent =>
      cases hs'
      exact .inl ⟨sent, hnews, rfl⟩
    | arrived i ours =>
      cases ours with
      | true => exact absurd (hnews ▸ List.mem_cons_self ..) (hothers i)
      | false =>
        obtain ⟨unread, hunread, hs'⟩ := Checked.bind_eq_ok.1 hs'
        obtain ⟨-, rfl⟩ := Count.add_eq_ok.1 hunread
        have hs' : (s.countOne news).dispatch .update = .ok s' := hs'
        have hrest : s'.news = news := (dispatch_asks hs').news.trans (news_begun _ _)
        rw [← hrest] at hnews hs'
        exact .inr ⟨i, hnews, hs'⟩
  · cases hm

/-- The window has seen all messages that are loaded, and shows the boundary of what is unread. -/
structure Abreast (s : Session) : Prop where
  mounted : s.window.state.isMounted = true
  size : s.graph.size = s.window.state.prevSize
  boundary : s.window.boundary? = s.graph.unreadBoundary? s.unread
  others : ∀ i, .arrived i true ∉ s.news

/-- A window that is on screen stays there when it is told of an update. -/
theorem isMounted_dispatch_update (hx : x.window.state.isMounted = true)
    (hy : x.dispatch .update = .ok y) : y.window.state.isMounted = true := by
  obtain ⟨htorn, hscroll⟩ := WindowState.isMounted_iff.1 hx
  have hasks := dispatch_asks hy
  rw [begun_update] at hasks
  exact WindowState.isMounted_iff.2 ⟨hasks.tornDown.trans htorn, hasks.scroll hscroll⟩

theorem waiting_of_acknowledged {sent : PendingSend}
    (hnews : s.news = .acknowledged sent :: s'.news) : s.waiting = s'.waiting := by
  rw [waiting, hnews]
  rfl

theorem waiting_of_arrived (hnews : s.news = .arrived i false :: s'.news) :
    s.waiting = i :: s'.waiting := by
  rw [waiting, hnews]
  rfl

theorem others_of_cons {n : FeedEvent} (hnews : s.news = n :: s'.news)
    (hothers : ∀ i, .arrived i true ∉ s.news) : ∀ i, .arrived i true ∉ s'.news := by
  intro i hi
  apply hothers i
  rw [hnews]
  exact List.mem_cons_of_mem _ hi

theorem length_news_of_hear (hm : s.move .hearNews = some s')
    (hothers : ∀ i, .arrived i true ∉ s.news) : s.news.length = s'.news.length + 1 := by
  rcases hear_cases hm hothers with ⟨sent, hnews, -⟩ | ⟨i, hnews, -⟩
  · rw [hnews, List.length_cons]
  · rw [hnews, List.length_cons]

/-- A window on screen has seen all unread messages but the one that is counted now. -/
theorem prevUnread_lt_countOne (hrun : Run h s) (hm : s.window.state.isMounted = true)
    (news : List FeedEvent) :
    (s.countOne news).window.state.prevUnread < (s.countOne news).unread := by
  have hseen := (hrun.tracks.unread hm).resolve_right List.not_mem_nil
  exact Nat.lt_succ_of_le (Nat.le_of_eq hseen)

/-- **News of a message that the window has seen before leaves it unread.** -/
theorem Abreast.hear (hs : s.Abreast) (hrun : Run h s) (hm : s.move .hearNews = some s') :
    s'.Abreast ∧ s'.feed = s.feed ∧
      s'.unread + s'.waiting.length = s.unread + s.waiting.length := by
  rcases hear_cases hm hs.others with ⟨sent, hnews, heq⟩ | ⟨i, hnews, hdispatch⟩
  · have hothers := others_of_cons hnews hs.others
    have hwaiting := waiting_of_acknowledged hnews
    rw [hwaiting, heq]
    exact ⟨⟨hs.mounted, hs.size, hs.boundary, hothers⟩, rfl, rfl⟩
  · have hgrown := prevUnread_lt_countOne hrun hs.mounted s'.news
    obtain ⟨hfeed, hunread, hsize, hboundary⟩ :=
      dispatch_counts (x := s.countOne s'.news) hs.mounted hgrown hs.size hdispatch
    have hgraph : s'.graph = s.graph := by rw [graph, hfeed]; rfl
    refine ⟨?_, hfeed, ?_⟩
    · exact
        { mounted := isMounted_dispatch_update (x := s.countOne s'.news) hs.mounted hdispatch
          size := by rw [hgraph, hsize]; rfl
          boundary := by rw [hboundary, hgraph, hunread]; rfl
          others := others_of_cons hnews hs.others }
    · rw [waiting_of_arrived hnews, hunread, List.length_cons]
      simp only [countOne]
      omega

/-- **The first news of somebody else's message has everything read**, and all others of which news
waits have been seen by then. -/
theorem Receives.hear (hs : s.Receives) (hrun : Run h s) (hm : s.move .hearNews = some s') :
    s'.feed = s.feed ∧ (s'.Receives ∧ s'.waiting = s.waiting ∨
      s'.Abreast ∧ s'.unread = 0 ∧ ∃ i, s.waiting = i :: s'.waiting) := by
  have hc := hs.caughtUp
  rcases hear_cases hm hs.others with ⟨sent, hnews, heq⟩ | ⟨i, hnews, hdispatch⟩
  · have hothers := others_of_cons hnews hs.others
    have hwaiting := (waiting_of_acknowledged hnews).symm
    refine ⟨by rw [heq], .inl ⟨?_, hwaiting⟩⟩
    have hclosed := hs.closed
    have hkeys := hs.keys
    have hposts := hs.posts
    have hsize := hs.size
    rw [← hwaiting] at hclosed hkeys hposts hsize
    rw [heq] at hothers hclosed hkeys hposts hsize ⊢
    exact ⟨⟨hc.mounted, hc.focused, hc.active, hc.locked, hc.near, hc.read, hc.reachesEnd⟩,
      hothers, hclosed, hkeys, hposts, hsize⟩
  · have hwaiting := waiting_of_arrived hnews
    have hgrown := prevUnread_lt_countOne hrun hc.mounted s'.news
    have hmore : s.graph.size ≠ s.window.state.prevSize := by
      have hsize := hs.size
      rw [hwaiting, List.length_cons] at hsize
      rw [graph]
      omega
    obtain ⟨hread, hsize⟩ := dispatch_reads (x := s.countOne s'.news) hc.mounted hc.locked hc.active
      hc.focused hc.near hgrown hmore hdispatch
    have hfeed : s'.feed = s.feed := by
      rw [(dispatch_asks hdispatch).feed, begun_update]
      rfl
    refine ⟨hfeed, .inr ⟨?_, hread, i, hwaiting⟩⟩
    exact
      { mounted := isMounted_dispatch_update (x := s.countOne s'.news) hc.mounted hdispatch
        size := hsize.symm
        boundary := by
          rw [(hrun.move hm).tracks.visible hread, hread, Graph.unreadBoundary?_zero]
        others := others_of_cons hnews hs.others }

/-! ## All news is heard -/

theorem Abreast.replay (hs : s.Abreast) (hrun : Run h s) (hn : s.news.length = n)
    (hs' : Session.replay h s (List.replicate n .hearNews) = some (h', s')) : s'.feed = s.feed ∧
      s'.unread = s.unread + s.waiting.length ∧
        s'.window.boundary? = s.graph.unreadBoundary? s'.unread := by
  induction n generalizing h s with
  | zero =>
    cases hs'
    have hnone := waiting_of_news (List.length_eq_zero_iff.1 hn)
    exact ⟨rfl, by rw [hnone]; rfl, hs.boundary⟩
  | succ n ih =>
    rw [List.replicate_succ] at hs'
    obtain ⟨s₁, hmove, hs'⟩ := Option.bind_eq_some_iff.1 hs'
    obtain ⟨hs₁, hfeed, hcount⟩ := hs.hear hrun hmove
    have hn₁ := length_news_of_hear hmove hs.others
    rw [hn] at hn₁
    obtain ⟨hfeed', hunread, hboundary⟩ := ih hs₁ (hrun.move hmove) (by omega) hs'
    refine ⟨hfeed'.trans hfeed, hunread.trans hcount, ?_⟩
    rw [hboundary, graph, hfeed, graph]

theorem Receives.replay_hear (hs : s.Receives) (hrun : Run h s) (hn : s.news.length = n)
    (hs' : Session.replay h s (List.replicate n .hearNews) = some (h', s')) :
    s'.unread = s.waiting.length - 1 ∧
      s'.window.boundary? = s.graph.unreadBoundary? (s.waiting.length - 1) := by
  induction n generalizing h s with
  | zero =>
    cases hs'
    have hread := hs.caughtUp.read
    rw [waiting_of_news (List.length_eq_zero_iff.1 hn), hrun.tracks.visible hread, hread]
    exact ⟨rfl, (Graph.unreadBoundary?_zero _).symm⟩
  | succ n ih =>
    rw [List.replicate_succ] at hs'
    obtain ⟨s₁, hmove, hs'⟩ := Option.bind_eq_some_iff.1 hs'
    have hn₁ := length_news_of_hear hmove hs.others
    obtain ⟨hfeed, ⟨hs₁, hwaiting⟩ | ⟨hs₁, hread, i, hwaiting⟩⟩ := hs.hear hrun hmove
    · have hgraph : s₁.graph = s.graph := by rw [graph, hfeed, graph]
      rw [← hwaiting, ← hgraph]
      exact ih hs₁ (hrun.move hmove) (by omega) hs'
    · obtain ⟨-, hunread, hboundary⟩ := hs₁.replay (hrun.move hmove) (by omega) hs'
      have hcount : s'.unread = s.waiting.length - 1 := by
        rw [hunread, hread, hwaiting, List.length_cons]
        omega
      refine ⟨hcount, ?_⟩
      rw [hboundary, hcount, graph, hfeed, graph]

/-- The boundary of all messages of which news waits but the first. -/
theorem Receives.unreadBoundary? (hs : s.Receives) (hspans : ∃ a b, s.feed.Spans a b) :
    s.graph.unreadBoundary? (s.waiting.length - 1) = s.waiting[1]? := by
  have hsuffix := hs.waiting_suffix hspans
  have hposts := hs.posts
  match hwaiting : s.waiting with
  | [] | [_] => exact Graph.unreadBoundary?_zero _
  | i :: j :: rest =>
    rw [hwaiting] at hsuffix hposts
    have hnewest : j :: rest <:+ s.graph.keys := (List.suffix_cons i _).trans hsuffix
    have hloaded : j ∈ s.graph.keys := hnewest.subset (List.mem_cons_self ..)
    have hpost : s.graph.isPost j = true := by
      rw [graph, ← (Feed.isPost_of_loaded hspans hloaded).2]
      exact hposts j (by simp)
    exact Graph.unreadBoundary?_of_keys hnewest hpost

/-- The window can be told of an update, which makes nothing unread. -/
theorem Fits.exists_update (hs : s.Fits) : ∃ s', s.dispatch .update = .ok s' ∧ s'.Fits ∧
    s'.news = s.news ∧ s'.unread ≤ s.unread := by
  obtain ⟨s', hs', hfits⟩ := hs.exists_dispatch .update
  obtain ⟨-, hnews, hunread⟩ := tell_frame ((tell_singleton s .update).trans hs')
  refine ⟨s', hs', hfits, hnews, ?_⟩
  omega

/-- News that waits can be heard. -/
theorem exists_hear {n : FeedEvent} {news : List FeedEvent} (hs : s.Fits)
    (hcount : s.unread + s.waiting.length < Count.bound) (hnews : s.news = n :: news) :
    ∃ s', s.move .hearNews = some s' ∧ s'.Fits ∧ s'.news = news ∧
      s'.unread + s'.waiting.length ≤ s.unread + s.waiting.length := by
  have hwaiting : s.waiting.length =
      n.arrival?.toList.length + (news.filterMap FeedEvent.arrival?).length := by
    rw [waiting, hnews, List.filterMap_cons]
    cases n.arrival? <;> simp [Nat.add_comm]
  cases n with
  | acknowledged sent =>
    refine ⟨{ s with news }, ?_, ⟨hs.exists_spans, hs.policy⟩, rfl, ?_⟩
    · rw [move, hnews]
      rfl
    · rw [hwaiting, waiting]
      exact Nat.add_le_add_left (Nat.le_add_left _ _) _
  | arrived i ours =>
    cases ours with
    | true =>
      have ha : ({ s with news } : Session).Fits := ⟨hs.exists_spans, hs.policy⟩
      obtain ⟨s', hs', hfits, hrest, hle⟩ := ha.exists_update
      refine ⟨s', ?_, hfits, hrest, ?_⟩
      · rw [move, hnews]
        exact toOption_eq_some.2 hs'
      · rw [hwaiting, waiting, hrest]
        exact Nat.add_le_add hle (Nat.le_add_left _ _)
    | false =>
      have hone : (FeedEvent.arrived i false).arrival?.toList.length = 1 := rfl
      have ha : (s.countOne news).Fits := ⟨hs.exists_spans, hs.policy⟩
      obtain ⟨s', hs', hfits, hrest, hle⟩ := ha.exists_update
      have hadd : Count.add s.unread 1 = .ok (s.unread + 1) :=
        Count.add_eq_ok.2 ⟨by omega, rfl⟩
      refine ⟨s', ?_, hfits, hrest, ?_⟩
      · rw [move, hnews]
        refine toOption_eq_some.2 (Checked.bind_eq_ok.2 ⟨_, hadd, hs'⟩)
      · have hle : s'.unread ≤ s.unread + 1 := hle
        have hrest : s'.news = news := hrest
        rw [hwaiting, hone, waiting, hrest]
        omega

/-- All news that waits can be heard. -/
theorem exists_replay_hear (hs : s.Fits) (hcount : s.unread + s.waiting.length < Count.bound) :
    ∃ r, replay h s (List.replicate s.news.length .hearNews) = some r := by
  induction hn : s.news generalizing h s with
  | nil => exact ⟨_, rfl⟩
  | cons n news ih =>
    obtain ⟨s', hmove, hfits, hnews, hle⟩ := exists_hear hs hcount hn
    obtain ⟨r, hr⟩ := ih (h := (s, .hearNews) :: h) hfits (by omega) hnews
    refine ⟨r, ?_⟩
    rw [List.length_cons, List.replicate_succ, replay, hmove, Option.bind_some]
    exact hr

/-- **News that is heard together.** A reader looks at the newest message, has read everything, and
no news waits; then messages come in while nothing is heard. When all news of them has been heard,
all but one of them are unread, and the boundary stands at the second one. The news can be heard as
long as the sums that the window may come to are counts. -/
theorem hear_together {h₁ : List (Session × Move)} {s₁ : Session} (hrun : Run h s)
    (hcaughtUp : s.CaughtUp) (hnews : s.news = []) (hms : ∀ m ∈ ms, m.isBackground = true)
    (hs₁ : replay h s ms = some (h₁, s₁)) :
    (∀ h₂ s₂, replay h₁ s₁ (List.replicate s₁.news.length .hearNews) = some (h₂, s₂) →
      s₂.unread = s₁.waiting.length - 1 ∧ s₂.window.boundary? = s₁.waiting[1]?) ∧
    (s₁.window.policy.Fits s₁.feed.remote.size →
      ∃ r, replay h₁ s₁ (List.replicate s₁.news.length .hearNews) = some r) := by
  have hreceives := (hcaughtUp.receives hrun hnews).replay hrun hms hs₁
  have hrun₁ := run_replay hrun hs₁
  have hspans := hrun₁.tracks.exists_spans
  constructor
  · intro h₂ s₂ hs₂
    obtain ⟨hunread, hboundary⟩ := hreceives.replay_hear hrun₁ rfl hs₂
    exact ⟨hunread, hboundary.trans (hreceives.unreadBoundary? hspans)⟩
  · intro hfits
    refine exists_replay_hear ⟨hspans, hfits⟩ ?_
    -- no more messages wait than there are
    have hlength := hreceives.keys.length_le
    have hread := hreceives.caughtUp.read
    rw [Policy.Fits, Graph.size_eq_length_keys] at hfits
    omega

/-- Of three messages that come in before any news of them is heard, two stay unread. -/
theorem hear_together_three : ∃ h s h₁ s₁ h₂ s₂, Run h s ∧ s.CaughtUp ∧ s.news = [] ∧
    replay h s [.perform 0, .perform 0, .wait 5, .perform 0] = some (h₁, s₁) ∧
      s₁.waiting.length = 3 ∧
        replay h₁ s₁ (List.replicate s₁.news.length .hearNews) = some (h₂, s₂) ∧
          s₂.unread = 2 ∧ s₂.window.boundary? = s₁.waiting[1]? := by
  obtain ⟨h, s, hrun, hs⟩ := exists_run_of_trial { messages := 5, incomingEvery := some 10 }
    [.mount 10]
    (fun h s => decide (s.CaughtUp ∧ s.news = []) &&
      (replay h s [.perform 0, .perform 0, .wait 5, .perform 0]).any fun (r : _ × Session) =>
        decide (r.2.waiting.length = 3 ∧ r.2.window.policy.Fits r.2.feed.remote.size))
    (by decide +kernel)
  obtain ⟨hbefore, hafter⟩ := Bool.and_eq_true_iff.1 hs
  obtain ⟨hcaughtUp, hnews⟩ := of_decide_eq_true hbefore
  obtain ⟨⟨h₁, s₁⟩, hreplay, hafter⟩ := (Option.any_eq_true ..).1 hafter
  obtain ⟨hthree, hfits⟩ := of_decide_eq_true hafter
  obtain ⟨hheard, hall⟩ := hear_together hrun hcaughtUp hnews (by decide) hreplay
  obtain ⟨⟨h₂, s₂⟩, hs₂⟩ := hall hfits
  obtain ⟨hunread, hboundary⟩ := hheard h₂ s₂ hs₂
  rw [hthree] at hunread
  exact ⟨h, s, h₁, s₁, h₂, s₂, hrun, hcaughtUp, hnews, hreplay, hthree, hs₂, hunread, hboundary⟩

/-- A reader who looks at the newest message is left with an unread one, where two came in before
the news of the first was heard. -/
theorem exists_unread_under_eyes : ∃ h s h₁ s₁ h₂ s₂, Run h s ∧ s.CaughtUp ∧ s.results = [] ∧
    s.news = [] ∧ replay h s [.perform 0, .perform 0] = some (h₁, s₁) ∧
      replay h₁ s₁ [.hearNews, .hearNews] = some (h₂, s₂) ∧ s₂.news = [] ∧ s₂.unread = 1 ∧
        s₂.window.boundary?.isSome = true := by
  obtain ⟨h, s, hrun, hs⟩ := exists_run_of_trial { messages := 5, incomingEvery := some 10 }
    [.mount 10]
    (fun h s => decide (s.CaughtUp ∧ s.results = [] ∧ s.news = []) &&
      (replay h s [.perform 0, .perform 0]).any fun (r : _ × Session) =>
        (replay r.1 r.2 [.hearNews, .hearNews]).any fun (r : _ × Session) =>
          decide (r.2.news = [] ∧ r.2.unread = 1 ∧ r.2.window.boundary?.isSome = true))
    (by decide +kernel)
  obtain ⟨hbefore, hafter⟩ := Bool.and_eq_true_iff.1 hs
  obtain ⟨hcaughtUp, hresults, hnews⟩ := of_decide_eq_true hbefore
  obtain ⟨⟨h₁, s₁⟩, hreplay, hafter⟩ := (Option.any_eq_true ..).1 hafter
  obtain ⟨⟨h₂, s₂⟩, hheard, hafter⟩ := (Option.any_eq_true ..).1 hafter
  exact ⟨h, s, h₁, s₁, h₂, s₂, hrun, hcaughtUp, hresults, hnews, hreplay, hheard,
    of_decide_eq_true hafter⟩

end Session

end Scrollback
