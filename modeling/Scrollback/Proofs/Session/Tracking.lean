import Scrollback.Proofs.Feed.End
import Scrollback.Proofs.Session.Course
import Scrollback.Proofs.Window.Episode
/-!
# The window keeps track

Between two moves a window that is on screen knows how many messages are unread, and remembers no
more messages than are loaded. Where nothing is unread, it shows no boundary. All this may fail in
the middle of a dispatch; but then an event is in the queue that makes up for it.

## Main definitions

* `Session.Tracks` — what the window knows, up to the events that it still has to be told of.

## Main statements

* `Session.Tracks.handle` — one event keeps the window's knowledge.
* `Session.Run.tracks` — in every run the window keeps track.
-/

namespace Scrollback

namespace Session

variable {s s' x y a b : Session} {m : Move} {e : Event} {es queue more : List Event}
  {h : List (Session × Move)}

/-- What the window knows of the unread messages and of the loaded part, up to the events in a
queue. -/
structure Tracks (queue : List Event) (s : Session) : Prop where
  exists_spans : ∃ a b, s.feed.Spans a b
  unmounted : s.window.state.scroll = .initializing → s.window.state.unreadIndex = none
  unread : s.window.state.isMounted = true →
    s.window.state.prevUnread = s.unread ∨ .update ∈ queue
  size : s.window.state.isMounted = true →
    s.window.state.prevSize ≤ s.feed.loaded.size ∨ .reset ∈ queue
  visible : s.unread = 0 → s.window.boundary? = none

theorem Tracks.mono {queue' : List Event} (hs : Tracks queue s)
    (hsub : ∀ e ∈ queue, e ∈ queue') : Tracks queue' s where
  exists_spans := hs.exists_spans
  unmounted := hs.unmounted
  unread := fun hm => (hs.unread hm).imp_right (hsub _)
  size := fun hm => (hs.size hm).imp_right (hsub _)
  visible := hs.visible

/-! ## One event -/

/-- An event takes nothing from the feed, unless a reset follows. -/
theorem handle_grows (hh : x.handle e = .ok (y, more)) :
    x.feed.Grows y.feed ∨ .reset ∈ more := by
  rcases handle_page hh with hsame | ⟨added, hpage, hjoined, -⟩ | ⟨-, hreset⟩
  · exact .inl (hsame ▸ .refl _)
  · left
    rw [hjoined]
    refine Feed.grows_jumpToLatest ?_
    rw [hpage]
    exact LatestPage.noConfusion
  · exact .inr hreset

/-- The loaded part loses no message to an event, unless a reset follows. -/
theorem handle_size (hspans : ∃ a b, x.feed.Spans a b) (hh : x.handle e = .ok (y, more)) :
    x.feed.loaded.size ≤ y.feed.loaded.size ∨ .reset ∈ more :=
  (handle_grows hh).imp_left fun hgrows => hgrows.size_loaded_le hspans

/-- A window that is on screen after an event other than mounting was so before. -/
theorem isMounted_of_handle (hh : x.handle e = .ok (y, more))
    (hmount : e = .mount → x.window.state.scroll ≠ .initializing)
    (hy : y.window.state.isMounted = true) : x.window.state.isMounted = true := by
  cases haccepts : x.window.state.accepts e with
  | false =>
    obtain ⟨rfl, -⟩ := handle_of_not_accepts haccepts hh
    exact hy
  | true =>
    obtain ⟨htorn, hscroll⟩ := WindowState.accepts_iff.1 haccepts
    refine WindowState.isMounted_iff.2 ⟨htorn, ?_⟩
    rcases hscroll with hscroll | hconcerns
    · exact hscroll
    · cases e with
      | mount => exact hmount rfl
      | teardown =>
        obtain ⟨t, ht, hwindow, -⟩ := handle_transition hh
        rw [step_teardown haccepts ht] at hwindow
        rw [WindowState.isMounted_iff, hwindow] at hy
        cases hy.1
      | _ => cases hconcerns

/-- A window that is on screen after an event has taken notice of it. -/
theorem accepts_of_handle (hh : x.handle e = .ok (y, more)) (hy : y.window.state.isMounted = true) :
    x.window.state.accepts e = true := by
  cases haccepts : x.window.state.accepts e with
  | true => rfl
  | false =>
    obtain ⟨rfl, -⟩ := handle_of_not_accepts haccepts hh
    rw [WindowState.accepts_of_isMounted hy] at haccepts
    cases haccepts

/-- A window that no event has brought on screen knows no boundary. -/
theorem Tracks.handle_unmounted (hx : Tracks (e :: queue) x) (hh : x.handle e = .ok (y, more))
    (hscroll : y.window.state.scroll = .initializing) : y.window.state.unreadIndex = none := by
  cases haccepts : x.window.state.accepts e with
  | false =>
    obtain ⟨rfl, -⟩ := handle_of_not_accepts haccepts hh
    exact hx.unmounted hscroll
  | true =>
    obtain ⟨t, ht, hwindow, -⟩ := handle_transition hh
    rw [hwindow] at hscroll ⊢
    by_cases he : e = .teardown
    · -- a teardown leaves all but one thing
      subst he
      rw [step_teardown haccepts ht] at hscroll ⊢
      exact hx.unmounted hscroll
    · exact absurd hscroll (step_scroll haccepts he ht)

/-- An event leaves the count of unread messages, or an update follows. -/
theorem handle_unread (hh : x.handle e = .ok (y, more)) : y.unread = x.unread ∨ .update ∈ more := by
  obtain ⟨t, -, -, hunread, hupdate⟩ := handle_transition hh
  by_cases hmem : .dismissUnread ∈ t.effects
  · rw [if_pos hmem] at hunread
    by_cases hzero : x.unread = 0
    · left
      rw [hunread, hzero]
    · exact .inr (hupdate hmem hzero)
  · rw [if_neg hmem] at hunread
    exact .inl hunread

/-- A window on screen knows how many messages are unread, or will be told. -/
theorem Tracks.handle_prevUnread (hx : Tracks (e :: queue) x) (hh : x.handle e = .ok (y, more))
    (hy : y.window.state.isMounted = true) :
    y.window.state.prevUnread = y.unread ∨ .update ∈ more ++ queue := by
  rw [List.mem_append]
  rcases handle_unread hh with hsame | hmore
  · obtain ⟨t, ht, hwindow, -⟩ := handle_transition hh
    rw [hsame, hwindow]
    rcases step_prevUnread (accepts_of_handle hh hy) ht with hnow | ⟨hne, hmount, hold⟩
    · exact .inl hnow
    · rcases hx.unread (isMounted_of_handle hh hmount hy) with hseen | hmem
      · exact .inl (hold.trans hseen)
      · exact .inr (.inr ((List.mem_cons.1 hmem).resolve_left (Ne.symm hne)))
  · exact .inr (.inl hmore)

/-- A window on screen remembers no more messages than are loaded, or will be told. -/
theorem Tracks.handle_prevSize (hx : Tracks (e :: queue) x) (hh : x.handle e = .ok (y, more))
    (hy : y.window.state.isMounted = true) :
    y.window.state.prevSize ≤ y.feed.loaded.size ∨ .reset ∈ more ++ queue := by
  rw [List.mem_append]
  rcases handle_size hx.exists_spans hh with hle | hreset
  · obtain ⟨t, ht, hwindow, -⟩ := handle_transition hh
    rw [hwindow]
    rcases step_prevSize (accepts_of_handle hh hy) ht with hnow | ⟨hne, hmount, hold⟩
    · exact .inl (hnow.trans_le hle)
    · rcases hx.size (isMounted_of_handle hh hmount hy) with hseen | hmem
      · exact .inl (hold.trans_le (hseen.trans hle))
      · exact .inr (.inr ((List.mem_cons.1 hmem).resolve_left (Ne.symm hne)))
  · exact .inr (.inl hreset)

/-- Where nothing is unread no boundary is shown. -/
theorem Tracks.handle_visible (hx : Tracks (e :: queue) x) (hh : x.handle e = .ok (y, more))
    (hzero : y.unread = 0) : y.window.boundary? = none := by
  obtain ⟨t, ht, hwindow, hunread, -⟩ := handle_transition hh
  rw [Window.boundary?, hwindow]
  by_cases hmem : .dismissUnread ∈ t.effects
  · exact (step_dismisses ht hmem).1
  · rw [if_neg hmem] at hunread
    have hnone : x.unread = 0 := hunread.symm.trans hzero
    rcases step_visible ht with hsame | hhidden | ⟨-, hfound⟩
    · exact hsame.trans (hx.visible hnone)
    · exact hhidden
    · refine hfound.trans ?_
      rw [Window.inputs, hnone]
      exact Graph.unreadBoundary?_zero _

/-- **One event keeps track**: what it puts out of step is made up for by an event that follows. -/
theorem Tracks.handle (hx : Tracks (e :: queue) x) (hh : x.handle e = .ok (y, more)) :
    Tracks (more ++ queue) y where
  exists_spans := (handle_continues hh).exists_spans hx.exists_spans
  unmounted := hx.handle_unmounted hh
  unread := hx.handle_prevUnread hh
  size := hx.handle_prevSize hh
  visible := hx.handle_visible hh

/-! ## Runs -/

theorem Tracks.tell (ha : Tracks es a) (hb : a.tell es = .ok b) : Tracks [] b := by
  refine tell_induction (P := Tracks) ?_ ?_ ha hb
  · intro queue queue' x hperm hx
    exact hx.mono fun e he => hperm.mem_iff.1 he
  · intro e queue x y more hh hx
    exact hx.handle hh

/-- A change of the move's own is made up for by what the window is told of it. -/
theorem Tracks.change (hs : Tracks [] s) (hc : Change s m a es)
    (hstate : a.window.state = s.window.state) : Tracks es a := by
  have hgrows := hc.grows
  constructor
  · exact hgrows.exists_spans hs.exists_spans
  · rw [hstate]
    exact hs.unmounted
  · rw [hstate]
    intro hm
    have hseen := (hs.unread hm).resolve_right List.not_mem_nil
    cases hc with
    | hears i => exact .inr (List.mem_singleton_self _)
    | _ => left; simp_all
  · rw [hstate]
    intro hm
    have hseen := (hs.size hm).resolve_right List.not_mem_nil
    exact .inl (Nat.le_trans hseen (hgrows.size_loaded_le hs.exists_spans))
  · intro hzero
    rw [Window.boundary?, hstate]
    apply hs.visible
    cases hc with
    | hears i _ _ _ hunread => omega
    | _ => simp_all

theorem Tracks.move (hs : Tracks [] s) (hm : s.move m = some s') : Tracks [] s' := by
  obtain ⟨a, es, b, htold, htell, rfl⟩ := exists_told hm
  obtain ⟨tasks, started, heq⟩ := b.exists_settleMove_eq m
  have hb := (hs.change (told_change htold) (told_state htold)).tell htell
  rw [heq]
  exact ⟨hb.exists_spans, hb.unmounted, hb.unread, hb.size, hb.visible⟩

theorem Opened.tracks (ho : Opened s) : Tracks [] s := by
  obtain ⟨remote, config, o, hfeed⟩ := ho.feed
  constructor
  · rw [hfeed]
    exact Feed.spans_opened remote config o
  all_goals
    intro _
    simp_all [ho.state, WindowState.isMounted, Window.boundary?, WindowState.visibleUnread]

/-- **The window keeps track** in every run: no event is left that it would have to be told of. -/
theorem Run.tracks (hrun : Run h s) : Tracks [] s := by
  induction hrun with
  | opened ho => exact ho.tracks
  | move _ hm ih => exact ih.move hm

end Session

end Scrollback
