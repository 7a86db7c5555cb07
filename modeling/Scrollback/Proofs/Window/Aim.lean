import Scrollback.Proofs.Window.Lock
/-!
# The offset that a look reckons with

A transition looks at the loaded ends before its effects are carried out, and reckons with the
offset that they will lead to. The viewport works out its own offset when they are carried out. The
two are the same, so that a look at the ends is a look at what is shown.

## Main definitions

* `Progress.Rests` — a move that scrolls nowhere.
* `Progress.Aims` — the offset so far is that of the view.

## Main statements

* `Progress.handle_aims` — every event keeps the aim; a scroll has to tell where the view stands.
* `Progress.handle_rests` — an event that does not make the window look scrolls nowhere, unless it
  goes to a target.
-/

namespace Scrollback.Progress

variable {inp : Inputs} {p q r : Progress} {v : Viewport} {d : Direction} {event : Event}

/-- From `p` to `q` nothing is scrolled. -/
structure Rests (p q : Progress) : Prop where
  offset : q.offset = p.offset
  effects : ∃ es, q.effects = p.effects ++ es ∧ ∀ e ∈ es, e.scrolls = false

theorem Rests.trans (h : Rests p q) (k : Rests q r) : Rests p r where
  offset := k.offset.trans h.offset
  effects := by
    obtain ⟨es, hes, hrests⟩ := h.effects
    obtain ⟨fs, hfs, krests⟩ := k.effects
    refine ⟨es ++ fs, by rw [hfs, hes, List.append_assoc], ?_⟩
    exact List.forall_mem_append.2 ⟨hrests, krests⟩

theorem Rests.of_append (ho : q.offset = p.offset) (es : List Effect)
    (he : q.effects = p.effects ++ es) (hes : ∀ e ∈ es, e.scrolls = false) : Rests p q :=
  ⟨ho, es, he, hes⟩

theorem rests_update (f : WindowState → WindowState) (p : Progress) : Rests p (p.update f) :=
  .of_append rfl [] (List.append_nil _).symm (by simp)

theorem rests_emit {e : Effect} (he : e.scrolls = false) (p : Progress) : Rests p (p.emit e) :=
  .of_append rfl [e] rfl (by simpa using he)

theorem Rests.refl (p : Progress) : Rests p p :=
  .of_append rfl [] (List.append_nil _).symm (by simp)

/-- The view once the effects so far are carried out stays as well. -/
theorem Rests.view (h : Rests p q) : q.view inp v = p.view inp v := by
  obtain ⟨es, hes, hrests⟩ := h.effects
  rw [view_append hes]
  have hfree : ScrollMode.freeScroll = .lockedToBottom → (p.view inp v).anchor = none := nofun
  refine Viewport.foldl_apply hfree ?_
  intro e he hscrolls
  rw [hrests e he] at hscrolls
  cases hscrolls

/-! ## Moves that scroll nowhere -/

theorem rests_touch (inp : Inputs) (p : Progress) : Rests p (p.touch inp) := by
  rw [touch]
  split
  · exact rests_update _ p
  · exact .refl p

theorem rests_tryDismiss (inp : Inputs) (p : Progress) : Rests p (p.tryDismiss inp) := by
  rw [tryDismiss]
  split
  · exact .refl p
  · split
    · exact .refl p
    · exact (rests_update _ p).trans (rests_emit rfl _)

theorem rests_dismissIfActive (inp : Inputs) (p : Progress) :
    Rests p (p.dismissIfActive inp) := by
  rw [dismissIfActive]
  split
  · exact .refl p
  · exact rests_tryDismiss inp p

theorem rests_recomputeUnread (inp : Inputs) (p : Progress) :
    Rests p (p.recomputeUnread inp) := by
  rw [recomputeUnread]
  split
  · exact rests_update _ p
  · exact .refl p

theorem rests_trackUnread (inp : Inputs) (p : Progress) : Rests p (p.trackUnread inp) := by
  rw [trackUnread]
  exact rests_update _ p

theorem rests_noteSize (inp : Inputs) (p : Progress) : Rests p (p.noteSize inp) :=
  (rests_update _ p).trans (rests_recomputeUnread inp _)

theorem rests_requestIfIdle (d : Direction) (p : Progress) : Rests p (p.requestIfIdle d) := by
  rw [requestIfIdle]
  split
  · exact (rests_update _ p).trans (rests_emit rfl _)
  · exact .refl p

theorem rests_checkEdges (h : p.checkEdges inp = .ok q) : Rests p q :=
  checkEdges_induction (P := Rests p) (.refl p) (fun d q hq => hq.trans (rests_requestIfIdle d q)) h

theorem rests_focusChanged (inp : Inputs) (focused : Bool) (p : Progress) :
    Rests p (p.focusChanged inp focused) := by
  rw [focusChanged]
  split
  · exact (rests_update _ p).trans (rests_tryDismiss inp _)
  · exact rests_update _ p

theorem rests_ticked (inp : Inputs) (p : Progress) : Rests p (p.ticked inp) := by
  rw [ticked]
  split
  · exact .refl p
  · split
    · exact rests_update _ p
    · exact .refl p

/-- A target that has been reached, or is not loaded, is not gone to. -/
theorem rests_reachTarget
    (h : ∀ target, inp.target = some target → inp.graph.contains target = true →
      p.state.targetReached = true) : Rests p (p.reachTarget inp) := by
  rw [reachTarget]
  split
  · exact .refl p
  · next hnot =>
    split
    · exact rests_update _ p
    · next target htarget =>
      split
      · next hloaded => exact absurd (h target htarget hloaded) hnot
      · exact .refl p

/-! ## The aim -/

/-- The offset so far is that of the view once the effects so far are carried out. -/
def Aims (inp : Inputs) (v : Viewport) (p : Progress) : Prop :=
  p.offset = (p.view inp v).offset inp.graph

theorem Aims.of_rests (h : p.Aims inp v) (hrests : Rests p q) : q.Aims inp v := by
  rw [Aims, hrests.offset, hrests.view]
  exact h

theorem aims_scrollToLatest (inp : Inputs) (v : Viewport) (p : Progress) :
    p.scrollToLatest.Aims inp v := by
  have heffects : p.scrollToLatest.effects = p.effects ++ [.scrollToLatest] := rfl
  have hview : p.scrollToLatest.view inp v = (p.view inp v).scrollToLatest := view_append heffects
  rw [Aims, hview]
  exact (Viewport.offset_of_none rfl).symm

theorem Aims.follow (h : p.Aims inp v) : p.follow.Aims inp v := by
  rw [Progress.follow]
  split
  · exact aims_scrollToLatest inp v p
  · exact h

/-- The viewport comes to the offset that a transition expects of it. -/
theorem Aims.scrollToIndex (h : p.Aims inp v) (hvisible : inp.visible = v.visible)
    (i : MessageIndex) : (p.scrollToIndex inp i).Aims inp v := by
  cases hposition : inp.graph.positionOf? i with
  | none => rwa [Progress.scrollToIndex, hposition]
  | some position =>
    have hrows : max inp.visible 1 = (p.view inp v).visible := by
      rw [visible_view, hvisible, Viewport.visible]
      omega
    have hoffset := Viewport.offset_scrollToIndex (v := p.view inp v) hposition
    have heffects : (p.scrollToIndex inp i).effects = p.effects ++ [.scrollToIndex i] := by
      rw [scrollToIndex_of_position hposition]
    have hview : (p.scrollToIndex inp i).view inp v =
        (p.view inp v).scrollToIndex inp.graph i := view_append heffects
    rw [Aims, hview, hoffset, ← hrows, scrollToIndex_of_position hposition]

theorem Aims.reachTarget (h : p.Aims inp v) (hvisible : inp.visible = v.visible) :
    (p.reachTarget inp).Aims inp v := by
  rw [Progress.reachTarget]
  split
  · exact h
  · split
    · exact h.of_rests (rests_update _ p)
    · split
      · exact (h.of_rests (rests_update _ p)).scrollToIndex hvisible _
      · exact h

/-! ## Events -/

theorem mount_aims (hvisible : inp.visible = v.visible) (h : p.Aims inp v)
    (hq : p.mount inp = .ok q) : q.Aims inp v := by
  rw [mount] at hq
  split at hq
  · cases hq
    exact h
  · refine Aims.of_rests ?_ (rests_checkEdges hq)
    refine Aims.of_rests ?_ ((rests_update _ _).trans (rests_touch inp _))
    have hnoted (f : WindowState → WindowState) : (p.update f).Aims inp v :=
      h.of_rests (rests_update f p)
    split
    · exact ((hnoted _).of_rests (rests_update _ _)).scrollToIndex hvisible _
    · split
      · exact (hnoted _).scrollToIndex hvisible _
      · exact aims_scrollToLatest inp v _

theorem refresh_aims (hvisible : inp.visible = v.visible) (h : p.Aims inp v)
    (hq : p.refresh inp = .ok q) : q.Aims inp v := by
  have htracked : (p.trackUnread inp).Aims inp v := h.of_rests (rests_trackUnread inp p)
  rw [refresh_eq] at hq
  split at hq
  · cases hq
    exact htracked.reachTarget hvisible
  · refine Aims.of_rests (.reachTarget ?_ hvisible) (rests_checkEdges hq)
    exact (htracked.of_rests (rests_noteSize inp _)).follow.of_rests (rests_dismissIfActive inp _)

/-- A scroll that is told as it is takes over the offset of the view. -/
theorem scrolled_aims {offset : Nat} (hoffset : (p.view inp v).offset inp.graph = offset)
    (hq : p.scrolled inp offset = .ok q) : q.Aims inp v := by
  rw [scrolled] at hq
  refine Aims.of_rests ?_ (rests_checkEdges hq)
  refine Aims.of_rests ?_ ((rests_update _ _).trans (rests_tryDismiss inp _))
  have htold : Aims inp v { p with offset := offset } := hoffset.symm
  split
  · exact htold.of_rests (rests_update _ _)
  · exact htold.of_rests (rests_touch inp _)

theorem settled_aims {result : FetchResult} (hvisible : inp.visible = v.visible)
    (h : p.Aims inp v) (hq : p.settled inp d result = .ok q) : q.Aims inp v := by
  unfold settled at hq
  split at hq
  · cases hq
    exact h
  · cases result with
    | failed e =>
      cases hq
      exact h.of_rests ((rests_update _ p).trans (rests_emit rfl _))
    | loaded outcome =>
      refine Aims.of_rests (.reachTarget ?_ hvisible) (rests_checkEdges hq)
      split
      · exact h.of_rests ((rests_update _ p).trans (rests_recomputeUnread inp _))
      · exact h.of_rests (rests_update _ p)

theorem jumpToLatest_aims (hq : p.jumpToLatest inp = .ok q) : q.Aims inp v := by
  rw [jumpToLatest] at hq
  exact (aims_scrollToLatest inp v _).of_rests
    ((rests_tryDismiss inp _).trans (rests_checkEdges hq))

theorem jumpToUnread_aims (hvisible : inp.visible = v.visible) (h : p.Aims inp v)
    (hq : p.jumpToUnread inp = .ok q) : q.Aims inp v := by
  have htouched := h.of_rests (rests_touch inp p)
  rw [jumpToUnread] at hq
  split at hq
  · exact (htouched.scrollToIndex hvisible _).of_rests (rests_checkEdges hq)
  · cases hq
    exact htouched

/-- **Every event keeps the aim**; a scroll has to tell where the view stands. -/
theorem handle_aims (hvisible : inp.visible = v.visible) (h : p.Aims inp v)
    (hscroll : ∀ offset, event = .scroll offset → (p.view inp v).offset inp.graph = offset)
    (hq : p.handle inp event = .ok q) : q.Aims inp v := by
  cases event with
  | mount => exact mount_aims hvisible h hq
  | update => exact refresh_aims hvisible h hq
  | scroll offset => exact scrolled_aims (hscroll offset rfl) hq
  | settled d result => exact settled_aims hvisible h hq
  | focus focused => cases hq; exact h.of_rests (rests_focusChanged inp focused p)
  | tick => cases hq; exact h.of_rests (rests_ticked inp p)
  | jumpToLatest => exact jumpToLatest_aims hq
  | jumpToUnread => exact jumpToUnread_aims hvisible h hq
  | retry d => cases hq; exact h.of_rests (rests_requestIfIdle d p)
  | reset =>
    have hq : p.reset inp = .ok q := hq
    rw [reset] at hq
    exact (aims_scrollToLatest inp v _).of_rests (rests_checkEdges hq)
  | teardown => cases hq; exact h.of_rests (rests_update _ p)

/-- **An event that does not make the window look scrolls nowhere**, unless it goes to a target that
is loaded. -/
theorem handle_rests (hexamines : p.state.examines inp event = false)
    (htarget : ∀ target, inp.target = some target → inp.graph.contains target = true →
      p.state.targetReached = true)
    (hq : p.handle inp event = .ok q) : Rests p q := by
  cases event with
  | mount =>
    have hscroll : p.state.scroll ≠ .initializing := of_decide_eq_false hexamines
    rw [handle, mount, if_pos hscroll] at hq
    cases hq
    exact .refl p
  | update =>
    have hsize : inp.graph.size = p.state.prevSize :=
      Decidable.not_not.1 (of_decide_eq_false hexamines)
    rw [handle, refresh_of_size_eq hsize] at hq
    cases hq
    have hlook : Rests p (p.look inp .update) :=
      (rests_trackUnread inp p).trans
        (rests_update (fun s => { s with prevSize := inp.graph.size }) _)
    have hreached : (p.look inp .update).state.targetReached = p.state.targetReached :=
      (stays_trackUnread inp p).targetReached
    exact hlook.trans (rests_reachTarget (by rwa [hreached]))
  | scroll offset => cases hexamines
  | settled d result =>
    rw [handle, settled.eq_def] at hq
    split at hq
    · cases hq
      exact .refl p
    · next hpending =>
      cases result with
      | failed e =>
        cases hq
        exact (rests_update _ p).trans (rests_emit rfl _)
      | loaded outcome =>
        rw [WindowState.examines, decide_eq_true (Decidable.not_not.1 hpending)] at hexamines
        cases hexamines
  | focus focused => cases hq; exact rests_focusChanged inp focused p
  | tick => cases hq; exact rests_ticked inp p
  | jumpToLatest => cases hexamines
  | jumpToUnread =>
    have hnone : p.state.visibleUnread = none := by
      simpa [WindowState.examines] using hexamines
    rw [handle, jumpToUnread, visibleUnread_touch, hnone] at hq
    cases hq
    exact rests_touch inp p
  | retry d => cases hq; exact rests_requestIfIdle d p
  | reset => cases hexamines
  | teardown => cases hq; exact rests_update _ p

end Scrollback.Progress
