import Scrollback.Proofs.Window.Aim
import Scrollback.Proofs.Window.Ends
import Scrollback.Proofs.Window.Mounted
/-!
# The mounted range is covered

When a window looks at the loaded ends it asks for a page wherever the mounted range comes near. So
right after a look a gate is idle only where the range is far from the end. This lasts as long as
view, loaded messages and height stay what they were, and a lower list mounts no more than a higher
one.

## Main definitions

* `WindowState.Covers` — near the loaded ends, the mounted range finds no idle gate.

## Main statements

* `step_covers` — an event that makes the window look covers the mounted range.
* `step_ne_idle` — an event that does not look opens no gate, unless it tells of a failure.
* `step_toward` — an event that makes the window look asks toward a target that it has not reached.
* `step_reached` — a target that was reached stays reached.
* `step_arrived` — a target that is loaded when the window looks is reached.
-/

namespace Scrollback

/-- The range that is mounted on a list of so many rows comes near a loaded end only where the gate
of its direction is not idle. -/
def WindowState.Covers (s : WindowState) (policy : Policy) (size offset rows : Nat) : Prop :=
  ∃ m, Mounted.around size offset rows policy.overscan = .ok m ∧
    (m.start ≤ policy.fetchThreshold → s.gate .older ≠ .idle) ∧
    (size ≤ m.stop + policy.fetchThreshold → s.gate .newer ≠ .idle)

/-- Gates that are not opened go on covering a range. -/
theorem WindowState.Covers.of_gates {s t : WindowState} {policy : Policy} {size offset rows : Nat}
    (h : s.Covers policy size offset rows) (hgates : ∀ d, s.gate d ≠ .idle → t.gate d ≠ .idle) :
    t.Covers policy size offset rows := by
  obtain ⟨m, hm, hold, hnew⟩ := h
  exact ⟨m, hm, fun hnear => hgates _ (hold hnear), fun hnear => hgates _ (hnew hnear)⟩

namespace Progress

variable {inp : Inputs} {p q : Progress} {d : Direction} {target : MessageIndex}

/-- The look leaves no gate idle where it finds a reason to ask. -/
theorem checkEdges_ne_idle (h : p.checkEdges inp = .ok q) (hfinds : p.finds inp d = true) :
    q.state.gate d ≠ .idle := by
  by_cases hidle : p.state.gate d = .idle
  · rw [(checkEdges_requested h hidle hfinds).pending]
    exact Gate.noConfusion
  · rcases (moves_checkEdges h).untouched_or_requested d with huntouched | hrequested
    · rw [huntouched.gate]
      exact hidle
    · exact absurd hrequested.was_idle hidle

/-- **The look covers the mounted range.** -/
theorem checkEdges_covers (hsize : inp.graph.size ≠ 0) (h : p.checkEdges inp = .ok q) :
    q.state.Covers inp.policy inp.graph.size q.offset inp.visible := by
  have hlook := h
  rw [checkEdges, if_neg hsize] at hlook
  obtain ⟨m, hm, hlook⟩ := Checked.bind_eq_ok.1 hlook
  obtain ⟨near, hnear, -⟩ := Checked.bind_eq_ok.1 hlook
  have hsome : m.isEmpty = false := by
    have hlt := Mounted.start_lt_stop hsize hm
    rw [Mounted.isEmpty, beq_eq_false_iff_ne]
    omega
  have hfinds {d : Direction} (hd : m.near inp.graph.size inp.policy.fetchThreshold d = true) :
      p.finds inp d = true := by
    rw [finds_of_around hsize hm, hd, Bool.true_or]
  rw [(rests_checkEdges h).offset]
  refine ⟨m, hm, fun hold => checkEdges_ne_idle h (hfinds ?_),
    fun hnew => checkEdges_ne_idle h (hfinds ?_)⟩
  · simp [Mounted.near, Mounted.nearOldest, hsome, hold]
  · rw [Mounted.nearNewest, hsome, if_neg Bool.false_ne_true] at hnear
    obtain ⟨reach, hreach, heq⟩ := Checked.bind_eq_ok.1 hnear
    have hsum := hreach
    obtain ⟨-, rfl⟩ := Count.add_eq_ok.1 hsum
    simp [Mounted.near, Mounted.nearNewest, hsome, hreach, bind, Except.bind, pure, Except.pure,
      Except.toOption, hnew]

/-- Going to a message has no bearing on whether the target was reached. -/
theorem targetReached_scrollToIndex (inp : Inputs) (i : MessageIndex) (p : Progress) :
    (p.scrollToIndex inp i).state.targetReached = p.state.targetReached := by
  rw [scrollToIndex]
  split <;> rfl

/-- The window looks for a target that it has not reached where it lies. -/
theorem targetDirection?_eq (htarget : inp.target = some target)
    (haway : p.state.targetReached = false) (hsize : inp.graph.size ≠ 0) :
    p.targetDirection? inp = inp.graph.wayTo? target := by
  obtain ⟨_, -, holdest⟩ := inp.graph.exists_first (Nat.pos_of_ne_zero hsize)
  obtain ⟨_, -, hnewest⟩ := inp.graph.exists_last (Nat.pos_of_ne_zero hsize)
  rw [targetDirection?, haway, if_neg Bool.false_ne_true, htarget, Graph.wayTo?, holdest, hnewest]
  rfl

/-- Where a target that is not reached lies beyond a loaded end, the look finds a reason to ask
there. -/
theorem finds_of_wayTo? (htarget : inp.target = some target)
    (hway : inp.graph.wayTo? target = some d) (haway : p.state.targetReached = false)
    (h : p.checkEdges inp = .ok q) : p.finds inp d = true := by
  by_cases hsize : inp.graph.size = 0
  · rw [Graph.wayTo?_of_size_eq_zero hsize] at hway
    cases hway
    rw [finds, if_pos hsize]
    rfl
  · have htoward : p.targetDirection? inp = some d := by
      rw [← hway, targetDirection?_eq htarget haway hsize]
    obtain ⟨m, hm⟩ := exists_around_of_checkEdges hsize h
    rw [finds_of_around hsize hm, htoward, beq_self_eq_true, Bool.or_true]

/-- Going to the target reaches one that is loaded. -/
theorem targetReached_reachTarget (htarget : inp.target = some target)
    (hloaded : inp.graph.contains target = true) :
    (p.reachTarget inp).state.targetReached = true := by
  rw [reachTarget]
  split
  · assumption
  · simp only [htarget, hloaded, if_true, targetReached_scrollToIndex]
    rfl

/-- An exchange of the loaded messages gives the target up. -/
theorem targetReached_reset (h : p.reset inp = .ok q) : q.state.targetReached = true := by
  rw [reset] at h
  exact (stays_checkEdges h).targetReached

/-- A target that was reached stays reached when the window comes on screen. -/
theorem mount_reached (hreached : p.state.targetReached = true) (h : p.mount inp = .ok q) :
    q.state.targetReached = true := by
  rw [mount] at h
  split at h
  · cases h
    exact hreached
  · refine (stays_checkEdges h).targetReached.trans ?_
    refine (stays_touch inp _).targetReached.trans ?_
    refine Bool.or_eq_true_iff.2 (.inl ?_)
    split
    · exact targetReached_scrollToIndex ..
    · split
      · exact (targetReached_scrollToIndex ..).trans hreached
      · exact hreached

/-- **A target that was reached stays reached**, whatever happens. -/
theorem handle_reached {event : Event} (hreached : p.state.targetReached = true)
    (h : p.handle inp event = .ok q) : q.state.targetReached = true := by
  cases event with
  | mount => exact mount_reached hreached h
  | update => exact (refresh_stays hreached h).targetReached.trans hreached
  | settled d result => exact (settled_stays hreached h).targetReached.trans hreached
  | focus focused =>
    cases h
    exact (focusChanged_stays inp focused p).targetReached.trans hreached
  | tick =>
    cases h
    exact (ticked_stays inp p).targetReached.trans hreached
  | retry d =>
    cases h
    exact (stays_requestIfIdle d p).targetReached.trans hreached
  | teardown =>
    cases h
    exact hreached
  | reset => exact targetReached_reset h
  | scroll offset =>
    rw [handle, scrolled] at h
    refine (stays_checkEdges h).targetReached.trans ?_
    refine (stays_tryDismiss inp _).targetReached.trans ?_
    split
    · exact hreached
    · exact (stays_touch inp _).targetReached.trans hreached
  | jumpToLatest =>
    rw [handle, jumpToLatest] at h
    refine (stays_checkEdges h).targetReached.trans ?_
    refine (stays_tryDismiss inp _).targetReached.trans ?_
    exact (stays_touch inp _).targetReached.trans hreached
  | jumpToUnread =>
    have htouched := (stays_touch inp p).targetReached.trans hreached
    rw [handle, jumpToUnread] at h
    split at h
    · refine (stays_checkEdges h).targetReached.trans ?_
      exact (targetReached_scrollToIndex ..).trans htouched
    · cases h
      exact htouched

end Progress

/-! ## Transitions -/

variable {s : WindowState} {event : Event} {inp : Inputs} {t : Transition} {d : Direction}
  {v : Viewport} {target : MessageIndex}

/-- **An event that makes the window look covers the mounted range**, at the height that it looks
at. -/
theorem step_covers (haccepts : s.accepts event = true) (hexamines : s.examines inp event = true)
    (hvisible : inp.visible = v.visible) (hoffset : inp.offset = v.offset inp.graph)
    (hscroll : ∀ offset, event = .scroll offset → v.offset inp.graph = offset)
    (hsize : inp.graph.size ≠ 0) (h : step s event inp = .ok t) :
    t.state.Covers inp.policy inp.graph.size
      ((t.effects.foldl (Viewport.apply inp.graph) v).offset inp.graph) inp.visible := by
  obtain ⟨r, q, hq, -, hedges, rfl⟩ := step_looks haccepts hexamines h
  have haims := Progress.handle_aims hvisible (p := ⟨s, [], inp.offset⟩) hoffset hscroll hq
  have hcovers := Progress.checkEdges_covers hsize hedges
  rw [haims] at hcovers
  exact hcovers

/-- An event that does not make the window look opens no gate, unless it tells of a failure. -/
theorem step_ne_idle (haccepts : s.accepts event = true) (hexamines : s.examines inp event = false)
    (hfailed : ∀ d e, event ≠ .settled d (.failed e)) (h : step s event inp = .ok t)
    (hgate : s.gate d ≠ .idle) : t.state.gate d ≠ .idle := by
  have hbegun : (s.begun event).gate d ≠ .idle := by
    cases event with
    | settled e result =>
      rw [WindowState.begun_settled_of_ne]
      · exact hgate
      · intro hpending
        cases result with
        | failed error => exact hfailed e error rfl
        | loaded outcome => simp [WindowState.examines, hpending, FetchResult.isLoaded] at hexamines
    | reset => cases hexamines
    | teardown => cases d <;> exact hgate
    | _ => exact hgate
  rcases step_gate haccepts h d with ⟨hsame, -⟩ | ⟨-, hpending, -⟩
  · rw [hsame]
    exact hbegun
  · rw [hpending]
    exact Gate.noConfusion

/-- An event that does not make the window look leaves the view, unless it goes to a target that is
loaded. -/
theorem step_view (haccepts : s.accepts event = true) (hexamines : s.examines inp event = false)
    (htarget : ∀ target, inp.target = some target → inp.graph.contains target = true →
      s.targetReached = true)
    (h : step s event inp = .ok t) : t.effects.foldl (Viewport.apply inp.graph) v = v := by
  rw [step, if_pos haccepts] at h
  obtain ⟨q, hq, rfl⟩ := Checked.map_eq_ok.1 h
  exact (Progress.handle_rests hexamines htarget hq).view

/-- An event that makes the window look leaves no gate idle in the direction of a target that it has
not reached. -/
theorem step_toward (haccepts : s.accepts event = true) (hexamines : s.examines inp event = true)
    (htarget : inp.target = some target) (hway : inp.graph.wayTo? target = some d)
    (h : step s event inp = .ok t) (haway : t.state.targetReached = false) :
    t.state.gate d ≠ .idle := by
  obtain ⟨r, q, -, -, hedges, rfl⟩ := step_looks haccepts hexamines h
  refine Progress.checkEdges_ne_idle hedges (Progress.finds_of_wayTo? htarget hway ?_ hedges)
  exact (Progress.stays_checkEdges hedges).targetReached.symm.trans haway

/-- A target that was reached stays reached. -/
theorem step_reached (hreached : s.targetReached = true) (h : step s event inp = .ok t) :
    t.state.targetReached = true := by
  rw [step] at h
  split at h
  · obtain ⟨q, hq, rfl⟩ := Checked.map_eq_ok.1 h
    exact Progress.handle_reached hreached hq
  · cases h
    exact hreached

/-- Where the loaded messages are exchanged, the target is given up for reached. -/
theorem step_reset_reached (haccepts : s.accepts .reset = true) (h : step s .reset inp = .ok t) :
    t.state.targetReached = true := by
  rw [step, if_pos haccepts] at h
  obtain ⟨q, hq, rfl⟩ := Checked.map_eq_ok.1 h
  exact Progress.targetReached_reset hq

/-- **A target that is loaded is reached** by every event that looks at what is loaded, and stays
reached. -/
theorem step_arrived (haccepts : s.accepts event = true) (h : step s event inp = .ok t)
    (htarget : inp.target = some target) (hloaded : inp.graph.contains target = true)
    (hs : s.targetReached = true ∨ event = .update ∨ event = .reset ∨
      event = .mount ∧ s.scroll = .initializing) : t.state.targetReached = true := by
  rcases hs with hreached | rfl | rfl | ⟨rfl, hinit⟩
  · exact step_reached hreached h
  · rw [step, if_pos haccepts] at h
    obtain ⟨q, hq, rfl⟩ := Checked.map_eq_ok.1 h
    obtain ⟨r, -, hlast⟩ := Progress.refresh_reaches hq
    exact hlast.targetReached.trans (Progress.targetReached_reachTarget htarget hloaded)
  · exact step_reset_reached haccepts h
  · obtain ⟨position, hposition⟩ := Graph.exists_position hloaded
    have hposition := Graph.positionOf?_eq_some_iff.2 hposition
    exact (step_mount_target haccepts hinit htarget hposition h).2.1

end Scrollback
