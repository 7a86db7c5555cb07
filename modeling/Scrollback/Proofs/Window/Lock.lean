import Scrollback.History
import Scrollback.Proofs.Window.Episode
import Scrollback.Proofs.Window.Pane
import Scrollback.Proofs.Window.Viewport
/-!
# The lock and the view

A window remembers whether it is locked to the newest message, and its viewport has an anchor or
none. The two are kept by different code: a transition works out the offset that a scroll will lead
to, and the viewport works out its own anchor. They agree all the same, except while messages that
have joined at the end have not been noticed yet.

## Main definitions

* `WindowState.Agrees` — the mode of scrolling agrees with where a viewport stands.

## Main statements

* `Progress.handle_agrees` — every event but a scroll keeps the agreement.
* `Pane.Agrees.after` — so does every occurrence in which a scroll is told as it is.
* `Pane.locked_iff` — the window is locked just if its view shows the newest message.
-/

namespace Scrollback

/-- How a window scrolls agrees with where its view stands: a view that scrolls freely is away from
the newest message, and one that is locked is there once the window knows how many messages are
loaded. -/
structure WindowState.Agrees (s : WindowState) (v : Viewport) (g : Graph) : Prop where
  prevSize_le : s.prevSize ≤ g.size
  free : s.scroll = .freeScroll → v.offset g ≠ 0
  locked : s.scroll = .lockedToBottom → s.prevSize = g.size → v.offset g = 0

namespace WindowState

variable {s : WindowState} {v : Viewport} {g r : Graph}

/-- A mode that goes with the offset of the view agrees with it. -/
theorem Agrees.of_modeAt (hsize : s.prevSize ≤ g.size)
    (hscroll : s.scroll = Progress.modeAt (v.offset g)) : s.Agrees v g := by
  rw [Progress.modeAt] at hscroll
  split at hscroll
  · next hzero => exact ⟨hsize, fun hfree => by simp [hscroll] at hfree, fun _ _ => hzero⟩
  · next hzero => exact ⟨hsize, fun _ => hzero, fun hlocked => by simp [hscroll] at hlocked⟩

/-- The agreement outlasts whatever is loaded in addition. -/
theorem Agrees.grow (h : s.Agrees v g) (hsub : g.keys ⊆ r.keys) : s.Agrees v r := by
  have hsize := Graph.size_le_of_subset hsub
  have hprev := h.prevSize_le
  refine ⟨by omega, ?_, ?_⟩
  · intro hfree hzero
    have hle := Viewport.offset_le_of_subset hsub v
    exact h.free hfree (by omega)
  · intro hlocked hnoticed
    -- nothing can have been loaded since the window looked
    have hkeys := Graph.keys_eq_of_subset hsub (by omega)
    rw [Viewport.offset_congr hkeys]
    exact h.locked hlocked (by omega)

end WindowState

namespace Viewport

/-- Effects that move a view to the newest message at most leave it, or take it there. -/
theorem foldl_apply_cases {g : Graph} {v : Viewport} {es : List Effect}
    (hes : ∀ e ∈ es, e.scrolls = true → e = .scrollToLatest) :
    es.foldl (apply g) v = v ∨ es.foldl (apply g) v = v.scrollToLatest := by
  induction es generalizing v with
  | nil => exact .inl rfl
  | cons e es ih =>
    obtain ⟨he, hes⟩ := List.forall_mem_cons.1 hes
    rw [List.foldl_cons]
    cases hscrolls : e.scrolls with
    | false =>
      rw [apply_of_not_scrolls hscrolls]
      exact ih hes
    | true =>
      rw [he hscrolls]
      right
      rcases ih (v := v.scrollToLatest) hes with hsame | hlatest
      · exact hsame
      · exact hlatest

end Viewport

namespace Progress

variable {inp : Inputs} {p q : Progress} {v : Viewport} {event : Event}

/-- The view once the effects so far are carried out. -/
def view (inp : Inputs) (v : Viewport) (p : Progress) : Viewport :=
  p.effects.foldl (Viewport.apply inp.graph) v

/-- The mode so far agrees with the view once the effects so far are carried out. -/
def Agrees (inp : Inputs) (v : Viewport) (p : Progress) : Prop :=
  p.state.Agrees (p.view inp v) inp.graph

theorem view_append {es : List Effect} (h : q.effects = p.effects ++ es) :
    q.view inp v = es.foldl (Viewport.apply inp.graph) (p.view inp v) := by
  rw [view, h, List.foldl_append, view]

theorem visible_view (inp : Inputs) (v : Viewport) (p : Progress) :
    (p.view inp v).visible = v.visible := Viewport.visible_foldl_apply ..

/-! ## Moves -/

theorem Agrees.update {f : WindowState → WindowState} (h : p.Agrees inp v)
    (hscroll : (f p.state).scroll = p.state.scroll)
    (hsize : (f p.state).prevSize = p.state.prevSize) : (p.update f).Agrees inp v := by
  constructor
  · exact hsize.trans_le h.prevSize_le
  · intro hfree
    exact h.free (hscroll.symm.trans hfree)
  · intro hlocked hnoticed
    exact h.locked (hscroll.symm.trans hlocked) (hsize.symm.trans hnoticed)

/-- What leaves the view, or takes a locked one to the newest message, keeps the agreement. -/
theorem Agrees.of_stays (h : p.Agrees inp v) (hstays : Stays p q)
    (hsize : q.state.prevSize = p.state.prevSize) : q.Agrees inp v := by
  obtain ⟨es, hes, hscrolls⟩ := hstays.effects
  have hview : q.view inp v = es.foldl (Viewport.apply inp.graph) (p.view inp v) :=
    view_append hes
  constructor
  · exact hsize.trans_le h.prevSize_le
  · intro hfree
    rw [hstays.scroll] at hfree
    have hsame : q.view inp v = p.view inp v := by
      rw [hview]
      apply Viewport.foldl_apply _ hscrolls
      simp [hfree]
    rw [hsame]
    exact h.free hfree
  · intro hlocked hnoticed
    rw [hstays.scroll] at hlocked
    rw [hsize] at hnoticed
    rcases Viewport.foldl_apply_cases fun e he hs => (hscrolls e he hs).1 with hsame | hlatest
    · rw [hview, hsame]
      exact h.locked hlocked hnoticed
    · rw [hview, hlatest]
      exact Viewport.offset_of_none rfl

theorem Agrees.of_watches (h : p.Agrees inp v) (hstays : Stays p q)
    (hwatches : Watches inp true p q) : q.Agrees inp v :=
  h.of_stays hstays hwatches.prevSize

theorem agrees_scrollToLatest (h : p.state.prevSize ≤ inp.graph.size) :
    p.scrollToLatest.Agrees inp v := by
  have heffects : p.scrollToLatest.effects = p.effects ++ [.scrollToLatest] := rfl
  have hview : p.scrollToLatest.view inp v = (p.view inp v).scrollToLatest :=
    view_append heffects
  have hzero : (p.scrollToLatest.view inp v).offset inp.graph = 0 := by
    rw [hview]
    exact Viewport.offset_of_none rfl
  have hmode : p.scrollToLatest.state.scroll = modeAt 0 := rfl
  rw [← hzero] at hmode
  exact .of_modeAt h hmode

/-- The offset that a transition expects is the one that the viewport comes to. -/
theorem Agrees.scrollToIndex (h : p.Agrees inp v) (hvisible : inp.visible = v.visible)
    (i : MessageIndex) : (p.scrollToIndex inp i).Agrees inp v := by
  cases hposition : inp.graph.positionOf? i with
  | none => rwa [Progress.scrollToIndex, hposition]
  | some position =>
    have hrows : max inp.visible 1 = (p.view inp v).visible := by
      rw [visible_view, hvisible, Viewport.visible]
      omega
    have hoffset := Viewport.offset_scrollToIndex (v := p.view inp v) hposition
    rw [← hrows] at hoffset
    have heffects : (p.scrollToIndex inp i).effects = p.effects ++ [.scrollToIndex i] := by
      rw [scrollToIndex_of_position hposition]
    have hview : (p.scrollToIndex inp i).view inp v =
        (p.view inp v).scrollToIndex inp.graph i := view_append heffects
    apply WindowState.Agrees.of_modeAt
    · rw [scrollToIndex_of_position hposition]
      exact h.prevSize_le
    · rw [hview, hoffset, scrollToIndex_of_position hposition]

theorem Agrees.reachTarget (h : p.Agrees inp v) (hvisible : inp.visible = v.visible) :
    (p.reachTarget inp).Agrees inp v := by
  rw [Progress.reachTarget]
  split
  · exact h
  · split
    · exact h.update rfl rfl
    · split
      · exact (h.update rfl rfl).scrollToIndex hvisible _
      · exact h

theorem Agrees.touch (h : p.Agrees inp v) : (p.touch inp).Agrees inp v :=
  h.of_watches (stays_touch inp p) (watches_touch inp p)

theorem Agrees.tryDismiss (h : p.Agrees inp v) : (p.tryDismiss inp).Agrees inp v :=
  h.of_watches (stays_tryDismiss inp p) (watches_tryDismiss inp p)

theorem Agrees.checkEdges (h : p.Agrees inp v) (hq : p.checkEdges inp = .ok q) :
    q.Agrees inp v :=
  h.of_watches (stays_checkEdges hq) (watches_checkEdges hq)

/-- A locked window that notes the present size follows what has joined at the end. -/
theorem Agrees.noteSize_follow (h : p.Agrees inp v) : ((p.noteSize inp).follow).Agrees inp v := by
  have hsize : (p.noteSize inp).state.prevSize = inp.graph.size :=
    (watches_recomputeUnread inp _).prevSize
  have hnoted : Stays p (p.noteSize inp) :=
    (Stays.of_update rfl rfl).trans (stays_recomputeUnread inp _)
  have hview : (p.noteSize inp).view inp v = p.view inp v := by
    rw [view, noteSize, recomputeUnread]
    split <;> rfl
  rw [follow]
  split
  · next hlocked =>
    have hzero := (agrees_scrollToLatest (v := v) hsize.le).locked rfl hsize
    refine ⟨hsize.le, ?_, fun _ _ => hzero⟩
    intro hfree
    exact absurd (hlocked.symm.trans hfree) (by decide)
  · next hlocked =>
    refine ⟨hsize.le, ?_, fun h _ => absurd h hlocked⟩
    intro hfree
    rw [hview]
    exact h.free (hnoted.scroll.symm.trans hfree)

/-! ## Events -/

theorem mount_agrees (hvisible : inp.visible = v.visible) (hscroll : p.state.scroll = .initializing)
    (hq : p.mount inp = .ok q) : q.Agrees inp v := by
  rw [mount, if_neg (not_not_intro hscroll)] at hq
  refine Agrees.checkEdges (.touch (.update ?_ rfl rfl)) hq
  -- a window that is not mounted yet promises nothing
  have hlooked (f : WindowState → WindowState)
      (hf : (f p.state).scroll = p.state.scroll ∧ (f p.state).prevSize = inp.graph.size) :
      (p.update f).Agrees inp v := by
    have hmode : (f p.state).scroll = .initializing := hf.1.trans hscroll
    refine ⟨hf.2.le, fun hfree => ?_, fun hlocked => ?_⟩
    · exact absurd (hmode.symm.trans hfree) (by decide)
    · exact absurd (hmode.symm.trans hlocked) (by decide)
  split
  · exact ((hlooked _ ⟨rfl, rfl⟩).update rfl rfl).scrollToIndex hvisible _
  · split
    · exact (hlooked _ ⟨rfl, rfl⟩).scrollToIndex hvisible _
    · exact agrees_scrollToLatest (Nat.le_refl _)

theorem refresh_agrees (hvisible : inp.visible = v.visible) (h : p.Agrees inp v)
    (hq : p.refresh inp = .ok q) : q.Agrees inp v := by
  have htracked : (p.trackUnread inp).Agrees inp v :=
    h.of_stays (stays_trackUnread inp p) (prevSize_trackUnread inp p)
  rw [refresh_eq] at hq
  split at hq
  · cases hq
    exact htracked.reachTarget hvisible
  · refine Agrees.checkEdges (.reachTarget ?_ hvisible) hq
    exact htracked.noteSize_follow.of_watches (stays_dismissIfActive inp _)
      (watches_dismissIfActive inp _)

theorem settled_agrees {d : Direction} {result : FetchResult} (hvisible : inp.visible = v.visible)
    (h : p.Agrees inp v) (hq : p.settled inp d result = .ok q) : q.Agrees inp v := by
  have hgate (g : Gate) : (p.update (·.setGate d g)).Agrees inp v := by
    cases d <;> exact h.update rfl rfl
  unfold settled at hq
  split at hq
  · cases hq
    exact h
  · cases result with
    | failed e =>
      cases hq
      exact (hgate .idle).of_stays
        (.of_append rfl rfl [.fetchFailed d e] rfl (by simp [Effect.scrolls])) rfl
    | loaded outcome =>
      refine Agrees.checkEdges (.reachTarget ?_ hvisible) hq
      split
      · exact (hgate _).of_watches (stays_recomputeUnread inp _) (watches_recomputeUnread inp _)
      · exact hgate _

theorem reset_agrees (hq : p.reset inp = .ok q) : q.Agrees inp v := by
  rw [reset] at hq
  exact (agrees_scrollToLatest (Nat.le_refl _)).checkEdges hq

theorem jumpToLatest_agrees (h : p.Agrees inp v) (hq : p.jumpToLatest inp = .ok q) :
    q.Agrees inp v := by
  rw [jumpToLatest] at hq
  have hsize : (p.touch inp).state.prevSize ≤ inp.graph.size := h.touch.prevSize_le
  exact (agrees_scrollToLatest (p := (p.touch inp).emit .getMostRecent) hsize).tryDismiss.checkEdges
    hq

theorem jumpToUnread_agrees (hvisible : inp.visible = v.visible) (h : p.Agrees inp v)
    (hq : p.jumpToUnread inp = .ok q) : q.Agrees inp v := by
  rw [jumpToUnread] at hq
  split at hq
  · exact (h.touch.scrollToIndex hvisible _).checkEdges hq
  · cases hq
    exact h.touch

/-- A scroll that is told as it is decides the mode anew. -/
theorem scrolled_agrees {offset : Nat} (hsize : p.state.prevSize ≤ inp.graph.size)
    (hoffset : (p.view inp v).offset inp.graph = offset) (hq : p.scrolled inp offset = .ok q) :
    q.Agrees inp v := by
  have hdecided (r : Progress) (heffects : r.effects = p.effects)
      (hprev : r.state.prevSize = p.state.prevSize) :
      (r.update fun s => { s with scroll := modeAt offset }).Agrees inp v := by
    have hview : r.view inp v = p.view inp v := by rw [view, heffects, view]
    apply WindowState.Agrees.of_modeAt
    · exact hprev.trans_le hsize
    · rw [← hoffset, ← hview]
      rfl
  rw [scrolled] at hq
  refine Agrees.checkEdges (.tryDismiss ?_) hq
  split
  · exact hdecided _ rfl rfl
  · rw [touch]
    split
    · exact hdecided _ rfl rfl
    · exact hdecided _ rfl rfl

/-- Every event but a scroll keeps the agreement. -/
theorem handle_agrees (hvisible : inp.visible = v.visible)
    (hscroll : p.state.scroll ≠ .initializing) (hevent : ∀ offset, event ≠ .scroll offset)
    (h : event ≠ .reset → p.Agrees inp v) (hq : p.handle inp event = .ok q) : q.Agrees inp v := by
  cases event with
  | mount =>
    rw [handle, mount, if_pos hscroll] at hq
    cases hq
    exact h Event.noConfusion
  | update => exact refresh_agrees hvisible (h Event.noConfusion) hq
  | scroll offset => exact absurd rfl (hevent offset)
  | settled d result => exact settled_agrees hvisible (h Event.noConfusion) hq
  | focus focused =>
    cases hq
    exact (h Event.noConfusion).of_watches (focusChanged_stays inp focused p)
      (focusChanged_watches inp focused p)
  | tick =>
    cases hq
    exact (h Event.noConfusion).of_watches (ticked_stays inp p) (ticked_watches inp p)
  | jumpToLatest => exact jumpToLatest_agrees (h Event.noConfusion) hq
  | jumpToUnread => exact jumpToUnread_agrees hvisible (h Event.noConfusion) hq
  | retry d =>
    cases hq
    exact (h Event.noConfusion).of_watches (stays_requestIfIdle d p)
      (watches_requestIfIdle inp d p)
  | reset => exact reset_agrees hq
  | teardown =>
    cases hq
    exact (h Event.noConfusion).update rfl rfl

end Progress

/-! ## Panes -/

namespace Pane

variable {p q : Pane} {o : Occurrence} {os : List Occurrence} {e : Event} {unread now : Nat}
  {w : Window} {g : Graph}

/-- On screen, how the window scrolls agrees with where its view stands. -/
def Agrees (p : Pane) : Prop :=
  p.window.state.isMounted = true → p.window.state.Agrees p.window.viewport p.graph

theorem Agrees.grow (h : p.Agrees) (hsub : p.graph.keys ⊆ g.keys) :
    Agrees { p with graph := g } := fun hmounted => (h hmounted).grow hsub

/-- A window that is not on screen agrees with its view once it comes there. -/
theorem agrees_of_unmounted {t : Transition} (hbefore : p.window.state.isMounted = false)
    (haccepts : p.window.state.accepts e = true)
    (ht : step p.window.state e (p.window.inputs p.graph unread now) = .ok t) :
    (p.moved t).Agrees := by
  intro hmounted
  obtain ⟨htorn, -⟩ := WindowState.accepts_iff.1 haccepts
  have hscroll : p.window.state.scroll = .initializing := by
    simpa [WindowState.isMounted, htorn] using hbefore
  cases e with
  | mount =>
    rw [step, if_pos haccepts] at ht
    obtain ⟨r, hr, rfl⟩ := Checked.map_eq_ok.1 ht
    exact Progress.mount_agrees (v := p.window.viewport) rfl hscroll hr
  | teardown =>
    rw [step_teardown haccepts ht] at hmounted
    simp [moved, WindowState.isMounted, WindowState.begun] at hmounted
  | _ =>
    have h := WindowState.isMounted_of_accepts haccepts rfl
    rw [hbefore] at h
    cases h

theorem agrees_of_not_accepts {t : Transition} (haccepts : p.window.state.accepts e = false)
    (ht : step p.window.state e (p.window.inputs p.graph unread now) = .ok t) :
    (p.moved t).Agrees := by
  intro hmounted
  have hsame : (p.moved t).window.state = p.window.state := by
    rw [step_of_not_accepts haccepts ht]
    rfl
  rw [hsame] at hmounted
  rw [WindowState.accepts_of_isMounted hmounted] at haccepts
  cases haccepts

/-- A window that is told of anything but a scroll keeps the agreement; a reset needs none before
it. -/
theorem tell_agrees (hevent : ∀ offset, e ≠ .scroll offset) (h : e ≠ .reset → p.Agrees)
    (hq : p.tell e unread now = .ok q) : q.Agrees := by
  obtain ⟨t, ht, rfl⟩ := tell_eq_ok.1 hq
  cases haccepts : p.window.state.accepts e with
  | false => exact agrees_of_not_accepts haccepts ht
  | true =>
    cases hbefore : p.window.state.isMounted with
    | false => exact agrees_of_unmounted hbefore haccepts ht
    | true =>
      intro _
      rw [step, if_pos haccepts] at ht
      obtain ⟨r, hr, rfl⟩ := Checked.map_eq_ok.1 ht
      have hscroll := (WindowState.isMounted_iff.1 hbefore).2
      have hagrees (he : e ≠ .reset) : Progress.Agrees (p.window.inputs p.graph unread now)
          p.window.viewport ⟨p.window.state, [], p.window.viewport.offset p.graph⟩ :=
        h he hbefore
      exact Progress.handle_agrees (v := p.window.viewport) rfl hscroll hevent hagrees hr

/-- So does one that is told where its view stands. -/
theorem tell_scroll_agrees
    (hsize : p.window.state.isMounted = true → p.window.state.prevSize ≤ p.graph.size)
    (hq : p.tell (.scroll (p.window.viewport.offset p.graph)) unread now = .ok q) : q.Agrees := by
  obtain ⟨t, ht, rfl⟩ := tell_eq_ok.1 hq
  cases haccepts : p.window.state.accepts (.scroll (p.window.viewport.offset p.graph)) with
  | false => exact agrees_of_not_accepts haccepts ht
  | true =>
    intro _
    have hbefore := WindowState.isMounted_of_accepts haccepts rfl
    rw [step, if_pos haccepts] at ht
    obtain ⟨r, hr, rfl⟩ := Checked.map_eq_ok.1 ht
    have hoffset : (Progress.view (p.window.inputs p.graph unread now) p.window.viewport
        ⟨p.window.state, [], p.window.viewport.offset p.graph⟩).offset p.graph =
          p.window.viewport.offset p.graph := rfl
    exact Progress.scrolled_agrees (hsize hbefore) hoffset hr

theorem Agrees.scroll {v : Viewport} (h : p.Agrees) (hq : p.scroll v unread now = .ok q) :
    q.Agrees := by
  rw [scroll_eq] at hq
  apply tell_scroll_agrees (p := p.turn v) _ hq
  intro hmounted
  exact (h hmounted).prevSize_le

/-- **Every occurrence keeps the agreement** in which no scroll is told but as it is. -/
theorem Agrees.after (h : p.Agrees) (ho : o.isRawScroll = false) (hq : p.after o = .ok q) :
    q.Agrees := by
  cases o with
  | event e unread now =>
    refine tell_agrees ?_ (fun _ => h) hq
    rintro offset rfl
    cases ho
  | scrollUp n unread now => exact h.scroll hq
  | scrollDown n unread now => exact h.scroll hq
  | exchange g unread now =>
    refine tell_agrees (fun offset => Event.noConfusion) ?_ hq
    intro hne
    exact absurd rfl hne
  | resize rows =>
    cases hq
    intro hmounted
    exact ⟨(h hmounted).prevSize_le, (h hmounted).free, (h hmounted).locked⟩
  | look focused =>
    cases hq
    exact h
  | insert i n =>
    cases hq
    exact h.grow (p.graph.keys_subset_insert i n)
  | extend page =>
    cases hq
    exact h.grow (p.graph.keys_subset_extend page)
  | acknowledge i =>
    cases hq
    exact h.grow (p.graph.keys_acknowledge i ▸ List.Subset.refl _)
  | delete i =>
    cases hq
    exact h.grow (p.graph.keys_delete i ▸ List.Subset.refl _)

/-- **The lock and the view agree.** A new window is put over any messages, and then anything may
happen to it and to them, except that a scroll is told which the view has not gone through. On
screen, a view that scrolls freely is anchored to a loaded message. Whenever the window knows how
many messages are loaded, it is locked just if its view has no offset, which is just if the view
shows the newest message. -/
theorem locked_iff (hw : w.state = {}) (hos : ∀ o ∈ os, o.isRawScroll = false)
    (hq : run ⟨w, g⟩ os = .ok q) (hmounted : q.window.state.isMounted = true) :
    (q.window.state.scroll = .freeScroll →
      ∃ k, q.window.viewport.anchor = some k ∧ q.graph.contains k = true) ∧
    (q.window.state.prevSize = q.graph.size →
      (q.window.state.scroll = .lockedToBottom ↔ q.window.viewport.offset q.graph = 0) ∧
      (q.window.viewport.offset q.graph = 0 ↔
        q.window.viewport.bottom? q.graph = q.graph.largest?)) := by
  have hagrees : q.Agrees := by
    refine run_induction (P := Agrees) ?_ ?_ hq
    · intro hm
      rw [hw] at hm
      cases hm
    · intro p r o ho hp hr
      exact hp.after (hos o ho) hr
  have hq := hagrees hmounted
  refine ⟨fun hfree => Viewport.exists_anchor (hq.free hfree), fun hsize => ⟨⟨?_, ?_⟩, ?_⟩⟩
  · intro hlocked
    exact hq.locked hlocked hsize
  · intro hzero
    cases hmode : q.window.state.scroll with
    | initializing => exact absurd hmode (WindowState.isMounted_iff.1 hmounted).2
    | lockedToBottom => rfl
    | freeScroll => exact absurd hzero (hq.free hmode)
  · exact Viewport.offset_eq_zero_iff _ _

/-- A reader who has scrolled away from the end is not locked to it, while messages join at both
ends. -/
theorem locked_iff_scrolled_away : ∃ g q, run ⟨{ viewport.height := 3 }, g⟩
      [.event .mount 0 0, .scrollUp 2 0 10, .insert ⟨9, by decide⟩ .deleted,
        .extend [⟨⟨0, by decide⟩, .deleted⟩], .event .update 1 20] = .ok q ∧
    q.window.state.isMounted = true ∧ q.window.state.prevSize = q.graph.size ∧
      q.window.state.scroll ≠ .lockedToBottom ∧ q.window.viewport.offset q.graph ≠ 0 := by
  have hrun : ((History.synthetic 8 "nec" ⟨⟨2024, 1, 1⟩, 0, 0⟩).toOption.any fun g =>
      (run ⟨{ viewport.height := 3 }, g⟩
        [.event .mount 0 0, .scrollUp 2 0 10, .insert ⟨9, by decide⟩ .deleted,
          .extend [⟨⟨0, by decide⟩, .deleted⟩], .event .update 1 20]).toOption.any fun q =>
            decide (q.window.state.isMounted = true ∧ q.window.state.prevSize = q.graph.size ∧
              q.window.state.scroll = .freeScroll)) = true := by decide +kernel
  obtain ⟨g, -, hrun⟩ := (Option.any_eq_true ..).1 hrun
  obtain ⟨q, hq, hafter⟩ := (Option.any_eq_true ..).1 hrun
  obtain ⟨hmounted, hsize, hfree⟩ := of_decide_eq_true hafter
  have hq := toOption_eq_some.1 hq
  have hnot : q.window.state.scroll ≠ .lockedToBottom := by
    rw [hfree]
    decide
  obtain ⟨-, hagree⟩ := locked_iff rfl (by decide) hq hmounted
  exact ⟨g, q, hq, hmounted, hsize, hnot, mt (hagree hsize).1.2 hnot⟩

end Pane

end Scrollback
