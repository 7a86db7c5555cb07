import Scrollback.Proofs.Session.Tracking
import Scrollback.Proofs.Window.Dismissal
/-!
# The window is up to date

The number of loaded messages and of unread ones change outside of the window, and it learns of that
by events. Whatever changes them either has an event in the queue of the dispatch, or leaves a
result or news that waits to be heard. So a window on screen is up to date as soon as nothing waits.

## Main definitions

* `Session.Expects` — something waits that will have the window look at the loaded part.
* `Session.UpToDate` — what the window knows, up to the events that it still has to be told of.

## Main statements

* `Session.UpToDate.handle` — one event keeps the window up to date.
* `Session.told_size` — so does what a move changes by itself.
* `Session.window_up_to_date` — in every run the window is up to date once nothing waits.
-/

namespace Scrollback

namespace Session

variable {s s' x y a b : Session} {m : Move} {e : Event} {es queue more : List Event}
  {h : List (Session × Move)} {i : MessageIndex}

/-- Something waits that will have the window look at the loaded part, or would if news were still
taken. -/
def Expects (s : Session) : Prop := s.results ≠ [] ∨ s.waiting ≠ [] ∨ s.closed = true

/-- What a window on screen knows of the loaded part and of the unread episode, up to the events in
a queue. -/
structure UpToDate (queue : List Event) (s : Session) : Prop where
  tracks : Tracks queue s
  unmounted : s.window.state.scroll = .initializing → s.window.state.unreadDismissed = false
  size : s.window.state.isMounted = true →
    s.window.state.prevSize = s.graph.size ∨ .update ∈ queue ∨ .reset ∈ queue ∨ s.Expects
  dismissed : s.window.state.isMounted = true → s.window.state.unreadDismissed = true →
    s.unread = 0 ∨ .update ∈ queue ∧ s.window.state.prevUnread < s.unread
  boundary : s.window.state.isMounted = true → ∀ i, s.window.boundary? = some i →
    s.graph.isPost i = true ∨ .reset ∈ queue

theorem UpToDate.mono {queue' : List Event} (hs : UpToDate queue s)
    (hsub : ∀ e ∈ queue, e ∈ queue') : UpToDate queue' s where
  tracks := hs.tracks.mono hsub
  unmounted := hs.unmounted
  size := fun hm => (hs.size hm).imp_right fun h => h.imp (hsub _) fun h => h.imp_left (hsub _)
  dismissed := fun hm hd => (hs.dismissed hm hd).imp_right fun h => h.imp_left (hsub _)
  boundary := fun hm i hi => (hs.boundary hm i hi).imp_right (hsub _)

/-! ## One event -/

theorem handle_expects (hh : x.handle e = .ok (y, more)) : y.Expects ↔ x.Expects := by
  rw [Expects, Expects, waiting, waiting, handle_results hh, handle_news hh, handle_closed hh]

/-- An event leaves the number of loaded messages, or an update or a reset follows. -/
theorem handle_graph_size (hh : x.handle e = .ok (y, more)) :
    y.graph.size = x.graph.size ∨ .update ∈ more ∨ .reset ∈ more := by
  rw [graph, graph]
  rcases handle_page hh with hsame | ⟨added, hpage, hjoined, hupdate⟩ | ⟨-, hreset⟩
  · exact .inl (by rw [hsame])
  · by_cases hadded : added = 0
    · left
      rw [hjoined, Feed.size_jumpToLatest hpage, hadded, Nat.add_zero]
    · exact .inr (.inl (hupdate hadded))
  · exact .inr (.inr hreset)

/-- An event keeps the loaded posts, or a reset follows. -/
theorem handle_isPost (hspans : ∃ a b, x.feed.Spans a b) (hh : x.handle e = .ok (y, more))
    (hi : x.graph.isPost i = true) : y.graph.isPost i = true ∨ .reset ∈ more :=
  (handle_grows hh).imp_left fun hgrows => hgrows.isPost_loaded hspans hi

theorem UpToDate.handle_unmounted (hx : UpToDate (e :: queue) x)
    (hh : x.handle e = .ok (y, more)) (hscroll : y.window.state.scroll = .initializing) :
    y.window.state.unreadDismissed = false := by
  cases haccepts : x.window.state.accepts e with
  | false =>
    obtain ⟨rfl, -⟩ := handle_of_not_accepts haccepts hh
    exact hx.unmounted hscroll
  | true =>
    obtain ⟨t, ht, hwindow, -⟩ := handle_transition hh
    rw [hwindow] at hscroll ⊢
    by_cases he : e = .teardown
    · subst he
      rw [step_teardown haccepts ht] at hscroll ⊢
      exact hx.unmounted hscroll
    · exact absurd hscroll (step_scroll haccepts he ht)

/-- A window on screen knows how many messages are loaded, or will be told. -/
theorem UpToDate.handle_size (hx : UpToDate (e :: queue) x) (hh : x.handle e = .ok (y, more))
    (hy : y.window.state.isMounted = true) : y.window.state.prevSize = y.graph.size ∨
      .update ∈ more ++ queue ∨ .reset ∈ more ++ queue ∨ y.Expects := by
  rw [List.mem_append, List.mem_append, handle_expects hh]
  rcases handle_graph_size hh with hsame | hmore | hmore
  · obtain ⟨t, ht, hwindow, -⟩ := handle_transition hh
    have haccepts := accepts_of_handle hh hy
    rw [hsame, hwindow]
    rcases step_prevSize haccepts ht with hnow | ⟨hne, hmount, hold⟩
    · exact .inl hnow
    · rcases hx.size (isMounted_of_handle hh hmount hy) with hseen | hmem | hmem | hexpects
      · exact .inl (hold.trans hseen)
      · rcases List.mem_cons.1 hmem with rfl | hmem
        · exact .inl (step_update_prevSize haccepts ht)
        · exact .inr (.inl (.inr hmem))
      · exact .inr (.inr (.inl (.inr ((List.mem_cons.1 hmem).resolve_left (Ne.symm hne)))))
      · exact .inr (.inr (.inr hexpects))
  · exact .inr (.inl (.inl hmore))
  · exact .inr (.inr (.inl (.inl hmore)))

/-- In a window on screen the unread episode is dismissed only where nothing is unread, or the
window will be told that there is a new one. -/
theorem UpToDate.handle_dismissed (hx : UpToDate (e :: queue) x)
    (hh : x.handle e = .ok (y, more)) (hy : y.window.state.isMounted = true)
    (hdismissed : y.window.state.unreadDismissed = true) : y.unread = 0 ∨
      .update ∈ more ++ queue ∧ y.window.state.prevUnread < y.unread := by
  obtain ⟨t, ht, hwindow, hunread, -⟩ := handle_transition hh
  have haccepts := accepts_of_handle hh hy
  rw [hwindow] at hdismissed ⊢
  by_cases hmem : .dismissUnread ∈ t.effects
  · exact .inl (hunread.trans (if_pos hmem))
  · rw [if_neg hmem] at hunread
    rcases step_dismissed ht hdismissed with hcontra | ⟨-, hnone⟩ | ⟨hold, hopens⟩
    · exact absurd hcontra hmem
    · exact .inl (hunread.trans hnone)
    · have hopens := hopens haccepts
      have hreset : e ≠ .reset := by
        rintro rfl
        cases hopens
      have hscroll : x.window.state.scroll ≠ .initializing := by
        intro hinit
        rw [hx.unmounted hinit] at hold
        cases hold
      have hmounted := isMounted_of_handle hh (fun _ => hscroll) hy
      rw [hunread]
      rcases hx.dismissed hmounted hold with hnone | ⟨hmem, hless⟩
      · exact .inl hnone
      · -- the event is no update: it would open an episode
        have hupdate : e ≠ .update := by
          rintro rfl
          exact absurd hless (of_decide_eq_false hopens)
        have hqueue := (List.mem_cons.1 hmem).resolve_left (Ne.symm hupdate)
        obtain ⟨hprev, -⟩ := step_counts_of_ne hupdate hreset (fun _ => hscroll) ht
        exact .inr ⟨List.mem_append_right _ hqueue, by rw [moved, hprev]; exact hless⟩

/-- The boundary that a window on screen shows is a loaded post, or the window will be told of an
exchange. -/
theorem UpToDate.handle_boundary (hx : UpToDate (e :: queue) x)
    (hh : x.handle e = .ok (y, more)) (hy : y.window.state.isMounted = true)
    (hi : y.window.boundary? = some i) :
    y.graph.isPost i = true ∨ .reset ∈ more ++ queue := by
  obtain ⟨t, ht, hwindow, -⟩ := handle_transition hh
  have haccepts := accepts_of_handle hh hy
  rw [List.mem_append]
  suffices hpost : x.graph.isPost i = true ∨ .reset ∈ queue by
    rcases hpost with hpost | hqueue
    · exact (handle_isPost hx.tracks.exists_spans hh hpost).imp_right .inl
    · exact .inr (.inr hqueue)
  rw [Window.boundary?, hwindow] at hi
  have hi : t.state.visibleUnread = some i := hi
  have hfound (hlook : t.state.visibleUnread = x.graph.unreadBoundary? x.unread) :
      x.graph.isPost i = true :=
    Graph.isPost_of_unreadBoundary? (hlook.symm.trans hi)
  by_cases hreset : e = .reset
  · subst hreset
    rcases step_visible_of_reset haccepts ht with hhidden | hlook
    · rw [hhidden] at hi
      cases hi
    · exact .inl (hfound hlook)
  · rcases step_visible ht with hsame | hhidden | ⟨-, hlook⟩
    · have hbefore : x.window.boundary? = some i := hsame.symm.trans hi
      have hscroll : x.window.state.scroll ≠ .initializing := by
        intro hinit
        rw [Window.boundary?, WindowState.visibleUnread, hx.tracks.unmounted hinit] at hbefore
        simp at hbefore
      have hmounted := isMounted_of_handle hh (fun _ => hscroll) hy
      rcases hx.boundary hmounted i hbefore with hpost | hmem
      · exact .inl hpost
      · exact .inr ((List.mem_cons.1 hmem).resolve_left (Ne.symm hreset))
    · rw [hhidden] at hi
      cases hi
    · exact .inl (hfound hlook)

/-- **One event keeps the window up to date**: what it puts out of step is made up for by an event
that follows, or by what waits. -/
theorem UpToDate.handle (hx : UpToDate (e :: queue) x) (hh : x.handle e = .ok (y, more)) :
    UpToDate (more ++ queue) y where
  tracks := hx.tracks.handle hh
  unmounted := hx.handle_unmounted hh
  size := hx.handle_size hh
  dismissed := hx.handle_dismissed hh
  boundary := fun hy _ hi => hx.handle_boundary hh hy hi

/-! ## Moves -/

/-- Work that is done leaves the number of loaded messages, or something that waits. -/
theorem perform_size (s : Session) (t : Task) : (s.perform t).Expects ∨
    (s.perform t).graph.size = s.graph.size ∧ (s.Expects → (s.perform t).Expects) := by
  obtain ⟨number, due, job⟩ := t
  cases job with
  | page d =>
    rw [perform_page]
    rcases s.feed.settle_cases d with ⟨g, e, -, heq⟩ | ⟨g, o, -, -, heq⟩ | ⟨g, fault, hg, heq⟩
    · exact .inl (.inl (by simp [heq, Except.toOption]))
    · exact .inl (.inl (by simp [heq, Except.toOption]))
    · -- the request is lost, and nothing comes of it
      right
      simp only [heq, Except.toOption, Option.map_none, Option.toList_none, List.append_nil]
      exact ⟨congrArg Graph.size hg.loaded, id⟩
  | acknowledgement sent =>
    right
    have hkeys : (s.feed.acknowledge sent).1.loaded.size = s.feed.loaded.size := by
      rw [Feed.acknowledge]
      split
      · exact Graph.size_modify _ _ _
      · rfl
    cases hack : s.feed.acknowledge sent with
    | mk feed ours =>
      rw [hack] at hkeys
      cases ours with
      | true =>
        simp only [perform, hack]
        refine ⟨?_, fun hexpects => ?_⟩
        · rw [report]
          split <;> exact hkeys
        · rw [Expects, waiting_report_acknowledged]
          rw [report]
          split <;> exact hexpects
      | false =>
        simp only [perform, hack]
        exact ⟨hkeys, id⟩
  | subscription period delivered =>
    cases hreceive : s.feed.receive (subscriptionAuthor (delivered + 1))
        (subscriptionText (delivered + 1)) (s.timeAt due) with
    | error fault =>
      have hsame : s.perform ⟨number, due, .subscription period delivered⟩ = s := by
        simp only [perform, hreceive]
      rw [hsame]
      exact .inr ⟨rfl, id⟩
    | ok p =>
      left
      simp only [perform, hreceive]
      split
      · next hclosed => exact .inr (.inr hclosed)
      · exact .inr (.inl (by simp [waiting, FeedEvent.arrival?]))

theorem toldBy_size {action : Action} (h : s.toldBy action = some (a, es)) :
    .update ∈ es ∨ a.graph.size = s.graph.size ∧ (s.Expects → a.Expects) := by
  unfold toldBy at h
  split at h
  case h_6 => split at h <;> cases h <;> exact .inr ⟨rfl, id⟩
  case h_7 =>
    obtain ⟨_, -, heq⟩ := Option.map_eq_some_iff.1 h
    cases heq
    exact .inl (List.mem_singleton_self _)
  all_goals
    cases h
    exact .inr ⟨rfl, id⟩

/-- **What a move changes of the number of loaded messages** the window is told of, or something
waits that will have it look. -/
theorem told_size (h : s.told m = some (a, es)) : .update ∈ es ∨ a.Expects ∨
    a.graph.size = s.graph.size ∧ (s.Expects → a.Expects) := by
  cases m with
  | input i => exact (toldBy_size h).imp_right .inr
  | perform n =>
    obtain ⟨t, -, heq⟩ := Option.map_eq_some_iff.1 h
    cases heq
    exact .inr (perform_size { s with tasks := s.tasks.eraseIdx n } t)
  | hearResult =>
    rw [told] at h
    split at h
    · cases h
      exact .inl (List.mem_cons_self ..)
    · cases h
  | hearNews =>
    rw [told] at h
    split at h
    · obtain ⟨_, -, heq⟩ := Option.map_eq_some_iff.1 h
      cases heq
      exact .inl (List.mem_singleton_self _)
    · next sent news hnews =>
      cases h
      refine .inr (.inr ⟨rfl, ?_⟩)
      rw [Expects, Expects, waiting, waiting, hnews]
      exact id
    · cases h
  | close =>
    cases h
    exact .inr (.inl (.inr (.inr rfl)))
  | _ =>
    cases h
    exact .inr (.inr ⟨rfl, id⟩)

theorem UpToDate.tell (ha : UpToDate es a) (hb : a.tell es = .ok b) : UpToDate [] b := by
  refine tell_induction (P := UpToDate) ?_ ?_ ha hb
  · intro queue queue' x hperm hx
    exact hx.mono fun e he => hperm.mem_iff.1 he
  · intro e queue x y more hh hx
    exact hx.handle hh

/-- A change of the move's own is made up for by what the window is told of it, or by what waits. -/
theorem UpToDate.told (hs : UpToDate [] s) (htold : s.told m = some (a, es)) :
    UpToDate es a := by
  have hstate := told_state htold
  have hchange := told_change htold
  constructor
  · exact hs.tracks.change hchange hstate
  · rw [hstate]
    exact hs.unmounted
  · rw [hstate]
    intro hm
    rcases told_size htold with hupdate | hexpects | ⟨hsame, hkeeps⟩
    · exact .inr (.inl hupdate)
    · exact .inr (.inr (.inr hexpects))
    · rcases hs.size hm with hseen | hnone | hnone | hexpects
      · exact .inl (hseen.trans hsame.symm)
      · cases hnone
      · cases hnone
      · exact .inr (.inr (.inr (hkeeps hexpects)))
  · rw [hstate]
    intro hm hd
    have hnone := (hs.dismissed hm hd).resolve_right fun hmem => List.not_mem_nil hmem.1
    have hseen := (hs.tracks.unread hm).resolve_right List.not_mem_nil
    cases hchange with
    | hears i _ _ _ hunread => exact .inr ⟨List.mem_singleton_self _, by omega⟩
    | _ => left; simp_all
  · rw [hstate, Window.boundary?, hstate]
    intro hm i hi
    have hpost := (hs.boundary hm i hi).resolve_right List.not_mem_nil
    exact .inl (hchange.grows.isPost_loaded hs.tracks.exists_spans hpost)

theorem UpToDate.move (hs : UpToDate [] s) (hm : s.move m = some s') : UpToDate [] s' := by
  obtain ⟨a, es, b, htold, htell, rfl⟩ := exists_told hm
  obtain ⟨tasks, started, heq⟩ := b.exists_settleMove_eq m
  have hb := (hs.told htold).tell htell
  have htracks := hs.tracks.move hm
  rw [heq] at htracks ⊢
  exact ⟨htracks, hb.unmounted, hb.size, hb.dismissed, hb.boundary⟩

theorem Opened.upToDate (ho : Opened s) : UpToDate [] s := by
  have hnot : s.window.state.isMounted ≠ true := by
    rw [ho.state]
    exact Bool.false_ne_true
  constructor
  · exact ho.tracks
  · intro _
    rw [ho.state]
  · exact fun hm => absurd hm hnot
  · exact fun hm => absurd hm hnot
  · exact fun hm => absurd hm hnot

theorem Run.upToDate (hrun : Run h s) : UpToDate [] s := by
  induction hrun with
  | opened ho => exact ho.upToDate
  | move _ hm ih => exact ih.move hm

/-- Once nothing waits, a window on screen knows how many messages are loaded, as long as news is
taken. -/
theorem Run.prevSize_eq (hrun : Run h s) (hmounted : s.window.state.isMounted = true)
    (hopen : s.closed = false) (hresults : s.results = []) (hnews : s.news = []) :
    s.window.state.prevSize = s.graph.size := by
  rcases hrun.upToDate.size hmounted with hseen | hnone | hnone | hexpects
  · exact hseen
  · cases hnone
  · cases hnone
  · rcases hexpects with hne | hne | hclosed
    · exact absurd hresults hne
    · rw [waiting, hnews] at hne
      exact absurd rfl hne
    · rw [hopen] at hclosed
      cases hclosed

/-- **A window on screen is up to date once nothing waits.** In every run, whatever has come and
gone in it, a window on screen knows how many messages are loaded, as long as news is taken, and how
many are unread. The unread episode is dismissed only where nothing is unread, so that the notice is
shown just if something is. A boundary that is shown is a loaded message that was not deleted, and
then something is unread. -/
theorem window_up_to_date (hrun : Run h s) (hmounted : s.window.state.isMounted = true)
    (hresults : s.results = []) (hnews : s.news = []) :
    (s.closed = false → s.window.state.prevSize = s.graph.size) ∧
    s.window.state.prevUnread = s.unread ∧
    (s.window.state.unreadDismissed = true → s.unread = 0) ∧
    (∀ identity, (s.window.notice? s.graph s.unread identity).isSome = true ↔ 0 < s.unread) ∧
    ∀ i, s.window.boundary? = some i → 0 < s.unread ∧ s.graph.isPost i = true := by
  have hs := hrun.upToDate
  have hdismissed (hd : s.window.state.unreadDismissed = true) : s.unread = 0 :=
    (hs.dismissed hmounted hd).resolve_right fun hmem => List.not_mem_nil hmem.1
  refine ⟨fun hopen => hrun.prevSize_eq hmounted hopen hresults hnews,
    (hs.tracks.unread hmounted).resolve_right List.not_mem_nil, hdismissed, fun identity => ?_,
    fun i hi => ⟨?_, ?_⟩⟩
  · rw [Window.notice?]
    split
    · next hnone =>
      refine ⟨fun hsome => Bool.noConfusion hsome, fun hpos => ?_⟩
      rcases hnone with hzero | hd | hnot
      · omega
      · have := hdismissed hd
        omega
      · exact absurd hmounted hnot
    · next hsome =>
      refine ⟨fun _ => ?_, fun _ => rfl⟩
      exact Nat.pos_of_ne_zero fun hzero => hsome (.inl hzero)
  · refine Nat.pos_of_ne_zero fun hzero => ?_
    rw [hs.tracks.visible hzero] at hi
    cases hi
  · exact (hs.boundary hmounted i hi).resolve_right List.not_mem_nil

/-- A reader who jumps to the newest message has the loaded part exchanged and dismisses what is
unread by the same key; the window knows of both. -/
theorem window_up_to_date_exchanged : ∃ h s, Run h s ∧ (∃ p ∈ h, p.1.replacedBy p.2 = true ∧
    p.1.unread = 1) ∧ s.unread = 0 ∧ s.window.state.prevSize = s.graph.size ∧
      s.window.state.prevUnread = s.unread := by
  obtain ⟨h, s, hrun, hs⟩ := exists_run_of_trial
    { messages := 9, pageSize := 2, scrollTo := some .first, unread := 1 }
    [.mount 10, .input (.key .bottom false)]
    (fun h s => decide (s.window.state.isMounted = true ∧ s.results = [] ∧ s.news = [] ∧
      s.closed = false ∧ (∃ p ∈ h, p.1.replacedBy p.2 = true ∧ p.1.unread = 1) ∧ s.unread = 0))
    (by decide +kernel)
  obtain ⟨hmounted, hresults, hnews, hopen, hexchanged, hread⟩ := of_decide_eq_true hs
  obtain ⟨hsize, hunread, -⟩ := window_up_to_date hrun hmounted hresults hnews
  exact ⟨h, s, hrun, hexchanged, hread, hsize hopen, hunread⟩

end Session

end Scrollback
