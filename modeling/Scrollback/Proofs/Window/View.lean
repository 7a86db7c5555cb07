import Scrollback.Proofs.Window.Gate
/-!
# What a transition does to the view

Once the target has been reached the view is moved by the reader only, or by an exchange of the
loaded messages. All other events leave it where it is, except that a view that is kept at the
newest message follows what is loaded there.

## Main definitions

* `Event.keepsView` — the event is neither a scroll, nor a jump, nor an exchange.
* `Progress.Stays` — what such an event does to the view.

## Main statements

* `step_stays` — a transition leaves the view where it is, or at the newest message.
* `step_follows` — a jump to the newest message and an exchange bring the view there.
* `step_mount_target` — mounting goes to a target that is loaded.
-/

namespace Scrollback

/-- The event is neither a scroll, nor a jump, nor an exchange of the loaded messages. -/
def Event.keepsView : Event → Bool
  | .scroll _ | .jumpToLatest | .jumpToUnread | .reset => false
  | _ => true

/-- The event brings the view to the newest message. -/
def Event.follows : Event → Bool
  | .jumpToLatest | .reset => true
  | _ => false

/-- The effect moves the view. -/
def Effect.scrolls : Effect → Bool
  | .scrollToIndex _ | .scrollToLatest => true
  | _ => false

namespace Progress

variable {inp : Inputs} {p q r : Progress} {d : Direction} {target : MessageIndex}

/-- From `p` to `q` the mode of scrolling stays, and the view is moved to the newest message at
most, if it is kept there. -/
structure Stays (p q : Progress) : Prop where
  scroll : q.state.scroll = p.state.scroll
  targetReached : q.state.targetReached = p.state.targetReached
  effects : ∃ es, q.effects = p.effects ++ es ∧ ∀ e ∈ es, e.scrolls = true →
    e = .scrollToLatest ∧ p.state.scroll = .lockedToBottom

theorem Stays.trans (h : Stays p q) (k : Stays q r) : Stays p r where
  scroll := k.scroll.trans h.scroll
  targetReached := k.targetReached.trans h.targetReached
  effects := by
    obtain ⟨es, hes, hstays⟩ := h.effects
    obtain ⟨fs, hfs, kstays⟩ := k.effects
    refine ⟨es ++ fs, by rw [hfs, hes, List.append_assoc], ?_⟩
    intro e he hscrolls
    rcases List.mem_append.1 he with he | he
    · exact hstays e he hscrolls
    · rw [← h.scroll]
      exact kstays e he hscrolls

/-- What does not concern the view and moves nothing. -/
theorem Stays.of_append (hs : q.state.scroll = p.state.scroll)
    (ht : q.state.targetReached = p.state.targetReached) (es : List Effect)
    (he : q.effects = p.effects ++ es) (hes : ∀ e ∈ es, e.scrolls = false) : Stays p q where
  scroll := hs
  targetReached := ht
  effects := by
    refine ⟨es, he, ?_⟩
    intro e hmem hscrolls
    rw [hes e hmem] at hscrolls
    cases hscrolls

theorem Stays.of_update {f : WindowState → WindowState} (hs : (f p.state).scroll = p.state.scroll)
    (ht : (f p.state).targetReached = p.state.targetReached) : Stays p (p.update f) :=
  .of_append hs ht [] (List.append_nil _).symm (by simp)

theorem Stays.refl (p : Progress) : Stays p p :=
  .of_append rfl rfl [] (List.append_nil _).symm (by simp)

/-! ## Moves -/

theorem stays_setGate (p : Progress) (d : Direction) (g : Gate) :
    Stays p (p.update (·.setGate d g)) := by
  cases d <;> exact .of_update rfl rfl

theorem stays_touch (inp : Inputs) (p : Progress) : Stays p (p.touch inp) := by
  rw [touch]
  split
  · exact .of_update rfl rfl
  · exact .refl p

theorem stays_tryDismiss (inp : Inputs) (p : Progress) : Stays p (p.tryDismiss inp) := by
  rw [tryDismiss]
  split
  · exact .refl p
  · split
    · exact .refl p
    · exact .of_append rfl rfl [.dismissUnread] rfl (by simp [Effect.scrolls])

theorem stays_dismissIfActive (inp : Inputs) (p : Progress) :
    Stays p (p.dismissIfActive inp) := by
  rw [dismissIfActive]
  split
  · exact .refl p
  · exact stays_tryDismiss inp p

theorem stays_trackUnread (inp : Inputs) (p : Progress) : Stays p (p.trackUnread inp) := by
  rw [trackUnread]
  apply Stays.of_update
  · split
    · rfl
    · split <;> rfl
  · split
    · rfl
    · split <;> rfl

theorem stays_recomputeUnread (inp : Inputs) (p : Progress) :
    Stays p (p.recomputeUnread inp) := by
  rw [recomputeUnread]
  split
  · exact .of_update rfl rfl
  · exact .refl p

/-- A view that is kept at the newest message is moved there. -/
theorem stays_follow (p : Progress) : Stays p p.follow := by
  rw [follow]
  split
  · next hlocked =>
    refine ⟨rfl, rfl, [.scrollToLatest], rfl, ?_⟩
    intro e he _
    exact ⟨List.mem_singleton.1 he, hlocked⟩
  · exact .refl p

theorem stays_requestIfIdle (d : Direction) (p : Progress) : Stays p (p.requestIfIdle d) := by
  rw [requestIfIdle]
  split
  · refine (stays_setGate p d .pending).trans ?_
    exact .of_append rfl rfl [.fetch d] rfl (by simp [Effect.scrolls])
  · exact .refl p

theorem stays_checkEdges (h : p.checkEdges inp = .ok q) : Stays p q :=
  checkEdges_induction (P := Stays p) (.refl p) (fun d q hq => hq.trans (stays_requestIfIdle d q)) h

/-- A target that was reached is not gone to again. -/
theorem Stays.reachTarget (h : Stays p q) (hreached : p.state.targetReached = true) :
    Stays p (q.reachTarget inp) := by
  rw [Progress.reachTarget, if_pos (h.targetReached.trans hreached)]
  exact h

/-! ## Events -/

/-- An update goes to the target on its way, and leaves the view before that and after it. -/
theorem refresh_reaches (h : p.refresh inp = .ok q) :
    ∃ r, Stays p r ∧ Stays (r.reachTarget inp) q := by
  have htracked := stays_trackUnread inp p
  rw [refresh_eq] at h
  split at h
  · cases h
    exact ⟨_, htracked, .refl _⟩
  · refine ⟨_, ?_, stays_checkEdges h⟩
    refine .trans (.trans (htracked.trans ?_) (stays_follow _)) (stays_dismissIfActive inp _)
    exact (Stays.of_update rfl rfl).trans (stays_recomputeUnread inp _)

/-- So does a page that the window waits for. Any other result leaves the view. -/
theorem settled_stays_or_reaches {result : FetchResult} (h : p.settled inp d result = .ok q) :
    Stays p q ∨ p.state.gate d = .pending ∧ result.isLoaded = true ∧
      ∃ r, Stays p r ∧ Stays (r.reachTarget inp) q := by
  unfold settled at h
  split at h
  · cases h
    exact .inl (.refl p)
  · next hgate =>
    cases result with
    | failed e =>
      cases h
      refine .inl ((stays_setGate p d .idle).trans ?_)
      exact .of_append rfl rfl [.fetchFailed d e] rfl (by simp [Effect.scrolls])
    | loaded outcome =>
      refine .inr ⟨Decidable.not_not.1 hgate, rfl, _, ?_, stays_checkEdges h⟩
      split
      · exact (stays_setGate p d _).trans (stays_recomputeUnread inp _)
      · exact stays_setGate p d _

theorem refresh_stays (hreached : p.state.targetReached = true) (h : p.refresh inp = .ok q) :
    Stays p q := by
  obtain ⟨r, hbefore, hafter⟩ := refresh_reaches h
  exact (hbefore.reachTarget hreached).trans hafter

theorem settled_stays {result : FetchResult} (hreached : p.state.targetReached = true)
    (h : p.settled inp d result = .ok q) : Stays p q := by
  rcases settled_stays_or_reaches h with hstays | ⟨-, -, r, hbefore, hafter⟩
  · exact hstays
  · exact (hbefore.reachTarget hreached).trans hafter

theorem focusChanged_stays (inp : Inputs) (focused : Bool) (p : Progress) :
    Stays p (p.focusChanged inp focused) := by
  rw [focusChanged]
  split
  · exact (Stays.of_update rfl rfl).trans (stays_tryDismiss inp _)
  · exact .of_update rfl rfl

theorem ticked_stays (inp : Inputs) (p : Progress) : Stays p (p.ticked inp) := by
  rw [ticked]
  split
  · exact .refl p
  · split
    · exact .of_update rfl rfl
    · exact .refl p

/-- Any other event leaves the view of a window that is on screen and has reached its target. -/
theorem handle_stays {event : Event} (he : event.keepsView = true)
    (hscroll : p.state.scroll ≠ .initializing) (hreached : p.state.targetReached = true)
    (h : p.handle inp event = .ok q) : Stays p q := by
  cases event with
  | mount =>
    rw [handle, mount, if_pos hscroll] at h
    cases h
    exact .refl p
  | update => exact refresh_stays hreached h
  | settled d result => exact settled_stays hreached h
  | focus focused => cases h; exact focusChanged_stays inp focused p
  | tick => cases h; exact ticked_stays inp p
  | retry d => cases h; exact stays_requestIfIdle d p
  | teardown => cases h; exact .of_update rfl rfl
  | scroll offset => cases he
  | jumpToLatest => cases he
  | jumpToUnread => cases he
  | reset => cases he

/-- A jump to the newest message moves the view there, and nowhere before or after. -/
theorem jumpToLatest_follows (h : p.jumpToLatest inp = .ok q) :
    ∃ r, Stays p r ∧ Stays r.scrollToLatest q := by
  rw [jumpToLatest] at h
  refine ⟨_, (stays_touch inp p).trans ?_, (stays_tryDismiss inp _).trans (stays_checkEdges h)⟩
  exact .of_append rfl rfl [.getMostRecent] rfl (by simp [Effect.scrolls])

/-- An exchange gives the target up and moves the view to the newest message. -/
theorem reset_follows (h : p.reset inp = .ok q) :
    ∃ r : Progress, r.state.targetReached = true ∧ r.effects = p.effects ∧
      Stays r.scrollToLatest q := by
  rw [reset] at h
  refine ⟨_, ?_, ?_, stays_checkEdges h⟩
  · rfl
  · rfl

/-- Going to a loaded message decides the mode by the offset that it leads to. -/
theorem scrollToIndex_of_position {position : Nat}
    (h : inp.graph.positionOf? target = some position) :
    p.scrollToIndex inp target =
      { p with
        offset := inp.graph.size - 1 - position - (max inp.visible 1 - 1)
        state := { p.state with
          scroll := modeAt (inp.graph.size - 1 - position - (max inp.visible 1 - 1)) }
        effects := p.effects ++ [.scrollToIndex target] } := by
  simp only [scrollToIndex, h]

/-- Mounting goes to a target that is loaded, and stays there. -/
theorem mount_target (hscroll : p.state.scroll = .initializing) (htarget : inp.target = some target)
    (hloaded : inp.graph.contains target = true) (h : p.mount inp = .ok q) :
    ∃ r : Progress, r.state.targetReached = true ∧ r.effects = p.effects ∧
      Stays (r.scrollToIndex inp target) q := by
  have hfound : inp.target.filter inp.graph.contains = some target := by
    rw [htarget, Option.filter_some, if_pos hloaded]
  have hnot : ¬ p.state.scroll ≠ .initializing := fun hne => hne hscroll
  rw [mount, if_neg hnot] at h
  simp only [hfound] at h
  refine ⟨(p.update fun s =>
    { s with
      prevSize := inp.graph.size
      prevUnread := inp.unread
      unreadIndex := inp.graph.unreadBoundary? inp.unread }).update fun s =>
        { s with targetReached := true }, rfl, rfl, ?_⟩
  refine Stays.trans (.trans (.of_update rfl ?_) (stays_touch inp _)) (stays_checkEdges h)
  rw [htarget]
  exact Bool.or_false _

end Progress

/-! ## Transitions -/

variable {s : WindowState} {event : Event} {inp : Inputs} {t : Transition}
  {target : MessageIndex} {position : Nat}

/-- **A transition leaves the view where it is**, or at the newest message if it is kept there. -/
theorem step_stays (he : event.keepsView = true) (hscroll : s.scroll ≠ .initializing)
    (hreached : s.targetReached = true) (h : step s event inp = .ok t) :
    t.state.scroll = s.scroll ∧ t.state.targetReached = true ∧
      ∀ e ∈ t.effects, e.scrolls = true → e = .scrollToLatest ∧ s.scroll = .lockedToBottom := by
  cases haccepts : s.accepts event with
  | false =>
    rw [step_of_not_accepts haccepts h]
    exact ⟨rfl, hreached, by simp⟩
  | true =>
    rw [step, if_pos haccepts] at h
    obtain ⟨q, hq, rfl⟩ := Checked.map_eq_ok.1 h
    have hstays := Progress.handle_stays he hscroll hreached hq
    obtain ⟨es, hes, hnone⟩ := hstays.effects
    refine ⟨hstays.scroll, hstays.targetReached.trans hreached, ?_⟩
    have hes : q.finish.effects = es := hes
    rw [hes]
    exact hnone

/-- **A transition that brings the view to the newest message** locks it there, and moves it nowhere
else. -/
theorem step_follows (haccepts : s.accepts event = true) (hevent : event.follows = true)
    (h : step s event inp = .ok t) :
    t.state.scroll = .lockedToBottom ∧
      (s.targetReached = true → t.state.targetReached = true) ∧
      .scrollToLatest ∈ t.effects ∧ ∀ e ∈ t.effects, e.scrolls = true → e = .scrollToLatest := by
  rw [step, if_pos haccepts] at h
  obtain ⟨q, hq, rfl⟩ := Checked.map_eq_ok.1 h
  obtain ⟨r, hreached, hbefore, hafter⟩ : ∃ r : Progress,
      (s.targetReached = true → r.state.targetReached = true) ∧
        (∀ e ∈ r.effects, e.scrolls = true → e = .scrollToLatest) ∧
        Progress.Stays r.scrollToLatest q := by
    cases event with
    | jumpToLatest =>
      obtain ⟨r, hbefore, hafter⟩ := Progress.jumpToLatest_follows hq
      obtain ⟨es, hes, hstays⟩ := hbefore.effects
      refine ⟨r, fun hs => hbefore.targetReached.trans hs, ?_, hafter⟩
      rw [hes, List.nil_append]
      exact fun e he hscrolls => (hstays e he hscrolls).1
    | reset =>
      obtain ⟨r, hreached, hnone, hafter⟩ := Progress.reset_follows hq
      exact ⟨r, fun _ => hreached, by simp [hnone], hafter⟩
    | _ => cases hevent
  obtain ⟨fs, hfs, hstays⟩ := hafter.effects
  have heffects : q.finish.effects = (r.effects ++ [.scrollToLatest]) ++ fs := hfs
  refine ⟨hafter.scroll, fun hs => hafter.targetReached.trans (hreached hs), ?_, ?_⟩
  · rw [heffects]
    simp
  · rw [heffects]
    intro e he hscrolls
    rcases List.mem_append.1 he with he | he
    · rcases List.mem_append.1 he with he | he
      · exact hbefore e he hscrolls
      · exact List.mem_singleton.1 he
    · exact (hstays e he hscrolls).1

/-- **Mounting goes to a target that is loaded**, and keeps the view at the newest message only if
the target leaves no room for it. -/
theorem step_mount_target (haccepts : s.accepts .mount = true) (hscroll : s.scroll = .initializing)
    (htarget : inp.target = some target) (hposition : inp.graph.positionOf? target = some position)
    (h : step s .mount inp = .ok t) :
    t.state.scroll =
        Progress.modeAt (inp.graph.size - 1 - position - (max inp.visible 1 - 1)) ∧
      t.state.targetReached = true ∧
        ∃ es, t.effects = .scrollToIndex target :: es ∧ ∀ e ∈ es, e.scrolls = true →
          e = .scrollToLatest ∧ t.state.scroll = .lockedToBottom := by
  have hloaded : inp.graph.contains target = true := by
    rw [Graph.contains_iff_mem_keys, ← Graph.positionOf?_isSome_iff, hposition]
    rfl
  rw [step, if_pos haccepts] at h
  obtain ⟨q, hq, rfl⟩ := Checked.map_eq_ok.1 h
  obtain ⟨r, hreached, hnone, hstays⟩ := Progress.mount_target hscroll htarget hloaded hq
  rw [Progress.scrollToIndex_of_position hposition] at hstays
  obtain ⟨es, hes, hrest⟩ := hstays.effects
  refine ⟨hstays.scroll, hstays.targetReached.trans hreached, es, ?_, ?_⟩
  · exact hes.trans (by rw [hnone]; rfl)
  · intro e he hscrolls
    obtain ⟨heq, hlocked⟩ := hrest e he hscrolls
    exact ⟨heq, hstays.scroll.trans hlocked⟩

end Scrollback
