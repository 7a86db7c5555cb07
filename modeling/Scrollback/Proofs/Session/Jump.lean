import Scrollback.Proofs.Session.LiveEnd
import Scrollback.Proofs.Session.Target
import Scrollback.Proofs.Session.UpToDate
/-!
# Where a jump to the newest message lands

A jump to the newest message loads the newest page, either joined to what is loaded or in its place,
and one or two further events follow from it. Whichever they are, they leave what the jump itself
has brought about: the loaded part ends where the history does, the view follows the newest message,
and under the eyes of a reader nothing is unread any more.

## Main definitions

* `Session.Landed` — what a jump has brought about.

## Main statements

* `Session.handle_jump_landed` — the jump itself brings it about.
* `Session.Landed.handle` — the events that follow from it keep it.
* `Session.jump_lands` — so a jump lands at the live end, whatever is under way.
-/

namespace Scrollback

namespace Session

variable {s s' x y : Session} {e : Event} {more : List Event} {h : List (Session × Move)}
  {v : Viewport} {mode : ScrollMode}

/-- The view that a jump to the newest message goes to. -/
def viewAtEnd (s : Session) : Viewport := { s.window.viewport with anchor := none }

/-- The newest page is loaded, the view is locked to the newest message, and a reader who looks at
the window has nothing unread. -/
structure Landed (s x : Session) : Prop extends Rests s.viewAtEnd .lockedToBottom x where
  feed : x.feed = s.feed.jumpToLatest.1
  read : s.window.focused = true → x.unread = 0

/-! ## The view -/

/-- An event that brings the view to the newest message leaves it there. -/
theorem handle_follows (haccepts : x.window.state.accepts e = true) (he : e.follows = true)
    (hreached : x.window.state.targetReached = true) (hh : x.handle e = .ok (y, more)) :
    Rests x.viewAtEnd .lockedToBottom y := by
  obtain ⟨t, ht, hwindow, -⟩ := handle_transition hh
  obtain ⟨hscroll, hkept, hmem, heffects⟩ := step_follows haccepts he ht
  constructor
  · exact ScrollMode.noConfusion
  · exact fun _ => rfl
  · rw [hwindow]
    exact Viewport.foldl_apply_latest hmem heffects
  · rw [hwindow]
    exact hscroll
  · rw [hwindow]
    exact hkept hreached

/-- So it stays there when the loaded messages are exchanged. -/
theorem Rests.handle_reset (hx : Rests v .lockedToBottom x) (hh : x.handle .reset = .ok (y, more)) :
    Rests v .lockedToBottom y := by
  cases haccepts : x.window.state.accepts .reset with
  | false =>
    obtain ⟨rfl, -⟩ := handle_of_not_accepts haccepts hh
    exact hx
  | true =>
    have hv : x.viewAtEnd = v := by
      have hnone := hx.anchor rfl
      rw [viewAtEnd, hx.viewport]
      cases v
      cases hnone
      rfl
    exact hv ▸ handle_follows haccepts rfl hx.reached hh

/-! ## The unread messages -/

/-- Nothing is unread once a reader jumps to the newest message, unless the window has taken the
episode for dismissed while something was. -/
theorem handle_jump_read (haccepts : s.window.state.accepts .jumpToLatest = true)
    (hdismissed : s.window.state.unreadDismissed = true → s.unread = 0)
    (hpolicy : 0 < s.window.policy.dismissOffset) (hfocused : s.window.focused = true)
    (hh : s.handle .jumpToLatest = .ok (y, more)) : y.unread = 0 := by
  obtain ⟨t, ht, -, hunread, -⟩ := handle_transition hh
  rw [hunread]
  split
  · rfl
  · next hspared =>
    by_contra hsome
    have hattended : (s.window.inputs s.graph s.unread s.now).Attended 0 :=
      ⟨hfocused, hsome, hpolicy⟩
    refine hspared (dismissUnread_mem_of_attended haccepts rfl hattended ?_ ht)
    exact Bool.eq_false_iff.2 fun hd => hsome (hdismissed hd)

/-! ## The jump and what follows from it -/

/-- **A jump loads the newest page, follows the newest message and marks all as read.** -/
theorem handle_jump_landed (haccepts : s.window.state.accepts .jumpToLatest = true)
    (hreached : s.window.state.targetReached = true)
    (hdismissed : s.window.state.unreadDismissed = true → s.unread = 0)
    (hpolicy : 0 < s.window.policy.dismissOffset)
    (hh : s.handle .jumpToLatest = .ok (y, more)) : Landed s y where
  toRests := handle_follows haccepts rfl hreached hh
  feed := (handle_feed hh).trans ((feed_begun haccepts).trans (if_pos rfl))
  read := fun hfocused => handle_jump_read haccepts hdismissed hpolicy hfocused hh

/-- **The events that follow from a jump leave what it has brought about.** -/
theorem Landed.handle (hx : Landed s x) (he : e = .update ∨ e = .reset)
    (hh : x.handle e = .ok (y, more)) : Landed s y where
  toRests := by
    rcases he with rfl | rfl
    · exact hx.toRests.handle rfl hh
    · exact hx.toRests.handle_reset hh
  feed := by
    have hne : e ≠ .jumpToLatest := by rcases he with rfl | rfl <;> exact Event.noConfusion
    rw [handle_feed hh, feed_begun_of_ne hne, hx.feed]
  read := fun hfocused => by
    obtain ⟨t, -, -, hunread, -⟩ := handle_transition hh
    rw [hunread, hx.read hfocused, ite_self]

/-- What a jump has brought about, all that follows from it leaves. -/
theorem dispatch_jump_landed (haccepts : s.window.state.accepts .jumpToLatest = true)
    (hreached : s.window.state.targetReached = true)
    (hdismissed : s.window.state.unreadDismissed = true → s.unread = 0)
    (hpolicy : 0 < s.window.policy.dismissOffset) (hs : s.dispatch .jumpToLatest = .ok s') :
    Landed s s' := by
  refine dispatch_tail (Q := fun e => e = .update ∨ e = .reset) ?_ ?_ hs
  · intro y more hh
    exact ⟨(handle_load hh).2, handle_jump_landed haccepts hreached hdismissed hpolicy hh⟩
  · intro e x y more he hh hx
    exact ⟨(handle_load hh).2, hx.handle he hh⟩

/-- Where nothing is unread after a dispatch, no boundary is shown. -/
theorem Run.boundary_dispatch (hrun : Run h s) (hs : s.dispatch e = .ok s')
    (hread : s'.unread = 0) : s'.window.boundary? = none := by
  rw [← tell_singleton] at hs
  have hqueue : Tracks [e] s := hrun.tracks.mono fun _ he => absurd he List.not_mem_nil
  exact (hqueue.tell hs).visible hread

/-- **A jump to the newest message lands at the live end.** In every run from a start, under a
policy that dismisses unread messages at the end at all, and whatever requests are under way and
whatever waits: when a window on screen that has reached its target jumps to the newest message of
a history that is not empty, then the newest loaded message is the newest of all, the view follows
it without an anchor and is locked to it, and if the reader looks at the window nothing is unread
and no boundary is shown. -/
theorem jump_lands (hrun : Run h s) (hstart : Started (origin h s))
    (hpolicy : 0 < (origin h s).window.policy.dismissOffset)
    (hmounted : s.window.state.isMounted = true)
    (hreached : s.window.state.targetReached = true) (hremote : s.feed.remote.size ≠ 0)
    (hs : s.dispatch .jumpToLatest = .ok s') :
    s'.feed.remote = s.feed.remote ∧ 0 < s'.graph.size ∧
      s'.graph.largest? = s'.feed.remote.largest? ∧
      s'.window.viewport.anchor = none ∧ s'.window.viewport.offset s'.graph = 0 ∧
      s'.window.state.scroll = .lockedToBottom ∧
      (s.window.focused = true → s'.unread = 0 ∧ s'.window.boundary? = none) := by
  obtain ⟨hsame, -, hconfig⟩ := hrun.frame
  rw [← hsame] at hpolicy
  have hpage : 0 < s.feed.config.pageSize := hconfig ▸ hstart.pageSize
  have hdismissed (hd : s.window.state.unreadDismissed = true) : s.unread = 0 :=
    (hrun.upToDate.dismissed hmounted hd).resolve_right fun hmem => List.not_mem_nil hmem.1
  have hlanded := dispatch_jump_landed (WindowState.accepts_of_isMounted hmounted _) hreached
    hdismissed hpolicy hs
  have hend : s'.feed.ReachesEnd := by
    rw [hlanded.feed]
    exact (Feed.reachesEnd_jumpToLatest hrun.tracks.exists_spans).2 (.inr hpage)
  have hkept : s'.feed.remote = s.feed.remote := by
    rw [hlanded.feed]
    exact s.feed.jumpToLatest_frame.1
  have hanchor : s'.window.viewport.anchor = none := by
    rw [hlanded.viewport]
    rfl
  refine ⟨hkept, ?_, hend, hanchor, Viewport.offset_of_none hanchor, hlanded.scroll, ?_⟩
  · refine Nat.pos_of_ne_zero fun hzero => hremote ?_
    rw [← hkept]
    exact hend.size_remote_eq_zero hzero
  · intro hfocused
    exact ⟨hlanded.read hfocused, hrun.boundary_dispatch hs (hlanded.read hfocused)⟩

/-- A reader who is at the first of nine messages jumps to the newest one while a page toward it is
on its way; the page that was loaded is exchanged, and the one unread message is marked as read. -/
theorem jump_lands_exchanged : ∃ h s s', Run h s ∧ s.replaces .jumpToLatest = true ∧
    s.pageTasks .newer = 1 ∧ s.unread = 1 ∧ s.dispatch .jumpToLatest = .ok s' ∧
    s'.graph.largest? = s'.feed.remote.largest? ∧ s'.window.viewport.anchor = none ∧
    s'.window.state.scroll = .lockedToBottom ∧ s'.unread = 0 ∧ s'.window.boundary? = none := by
  obtain ⟨h, s, hrun, hs⟩ := exists_run_of_trial
    { messages := 9, pageSize := 2, scrollTo := some .first, unread := 1 } [.mount 10]
    (fun h s => decide ((origin h s).failure = none ∧ 0 < (origin h s).feed.config.pageSize ∧
      0 < (origin h s).window.policy.dismissOffset ∧ s.window.state.isMounted = true ∧
      s.window.state.targetReached = true ∧ s.feed.remote.size ≠ 0 ∧
      s.window.focused = true ∧ s.replaces .jumpToLatest = true ∧ s.pageTasks .newer = 1 ∧
      s.unread = 1 ∧ (s.dispatch .jumpToLatest).toOption.isSome = true)) (by decide +kernel)
  obtain ⟨hfailure, hpage, hpolicy, hmounted, hreached, hremote, hfocused, hreplaces, htasks,
    hunread, hsome⟩ := of_decide_eq_true hs
  obtain ⟨s', hs'⟩ := Option.isSome_iff_exists.1 hsome
  have hdispatch := toOption_eq_some.1 hs'
  have hstart : Started (origin h s) :=
    { hrun.opened_origin with failure := hfailure, pageSize := hpage }
  obtain ⟨-, -, hend, hanchor, -, hlocked, hread⟩ :=
    jump_lands hrun hstart hpolicy hmounted hreached hremote hdispatch
  obtain ⟨hzero, hnone⟩ := hread hfocused
  exact ⟨h, s, s', hrun, hreplaces, htasks, hunread, hdispatch, hend, hanchor, hlocked, hzero, hnone⟩

end Session

end Scrollback
