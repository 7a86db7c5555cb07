import Scrollback.Proofs.Window.Gate
/-!
# When a page is asked for

A window asks for a page only where it looks at the loaded ends, or where the reader repeats a
failed request. The look finds a reason to ask in a direction if the mounted range comes near that
end, or if the target lies beyond it. Where nothing is loaded it finds one in the direction of older
messages alone.

## Main definitions

* `Progress.finds` — the look finds a reason to ask in a direction.

## Main statements

* `Progress.checkEdges_requested`, `Progress.checkEdges_untouched` — the look asks through an idle
  gate where it finds a reason, and nowhere else.
* `step_of_not_examines` — a transition without a look asks for nothing.
* `step_newer_of_empty` — where nothing is loaded, newer messages are not asked for.
-/

namespace Scrollback

/-- The range comes near the loaded end of a direction. A sum that is no count does not tell. -/
def Mounted.near (m : Mounted) (size threshold : Nat) : Direction → Bool
  | .older => m.nearOldest threshold
  | .newer => (m.nearNewest size threshold).toOption == some true

namespace Progress

variable {inp : Inputs} {p q r : Progress} {d e : Direction}

/-- The look at the loaded ends finds a reason to ask for a page. -/
def finds (inp : Inputs) (d : Direction) (p : Progress) : Bool :=
  if inp.graph.size = 0 then d == .older
  else
    (Mounted.around inp.graph.size p.offset inp.visible inp.policy.overscan).toOption.any
      fun mounted => mounted.near inp.graph.size inp.policy.fetchThreshold d ||
        p.targetDirection? inp == some d

/-- What the look finds depends on where the view is and on whether the target was reached. -/
theorem finds_congr (hoffset : q.offset = p.offset)
    (hreached : q.state.targetReached = p.state.targetReached) :
    q.finds inp d = p.finds inp d := by
  rw [finds, finds, hoffset, targetDirection?, targetDirection?, hreached]

/-- So does the way to the target. -/
theorem finds_reachTarget_congr (hoffset : q.offset = p.offset)
    (hreached : q.state.targetReached = p.state.targetReached) :
    (q.reachTarget inp).finds inp d = (p.reachTarget inp).finds inp d := by
  by_cases hp : p.state.targetReached = true
  · have hq := hreached.trans hp
    rw [reachTarget, if_pos hq, reachTarget, if_pos hp]
    exact finds_congr hoffset hreached
  · have hq : ¬ q.state.targetReached = true := hreached ▸ hp
    rw [reachTarget, if_neg hq, reachTarget, if_neg hp]
    split
    · exact finds_congr hoffset rfl
    · split
      · rw [scrollToIndex, scrollToIndex]
        split
        · exact finds_congr hoffset rfl
        · exact finds_congr rfl rfl
      · exact finds_congr hoffset hreached

/-- Where something is loaded, the look finds its reasons in the mounted range and in the target. -/
theorem finds_of_around {m : Mounted} (hsize : inp.graph.size ≠ 0)
    (hm : Mounted.around inp.graph.size p.offset inp.visible inp.policy.overscan = .ok m)
    (d : Direction) : p.finds inp d =
      (m.near inp.graph.size inp.policy.fetchThreshold d || p.targetDirection? inp == some d) := by
  rw [finds, if_neg hsize, hm]
  rfl

/-- The look at loaded messages comes upon a mounted range. -/
theorem exists_around_of_checkEdges (hsize : inp.graph.size ≠ 0) (h : p.checkEdges inp = .ok q) :
    ∃ m, Mounted.around inp.graph.size p.offset inp.visible inp.policy.overscan = .ok m := by
  rw [checkEdges, if_neg hsize] at h
  obtain ⟨m, hm, -⟩ := Checked.bind_eq_ok.1 h
  exact ⟨m, hm⟩

/-! ## Requests -/

theorem Untouched.trans (h : Untouched d p q) (k : Untouched d q r) : Untouched d p r :=
  ⟨k.gate.trans h.gate, k.count.trans h.count⟩

theorem Untouched.requested (h : Untouched d p q) (k : Requested d q r) : Requested d p r :=
  ⟨h.gate ▸ k.was_idle, k.pending, by rw [k.count, h.count]⟩

theorem Requested.untouched (h : Requested d p q) (k : Untouched d q r) : Requested d p r :=
  ⟨h.was_idle, k.gate.trans h.pending, by rw [k.count, h.count]⟩

theorem untouched_requestIf_of_ne (h : d ≠ e) (c : Prop) [Decidable c] (p : Progress) :
    Untouched d p (if c then p.requestIfIdle e else p) := by
  split
  · exact untouched_requestIfIdle_of_ne h p
  · exact ⟨rfl, rfl⟩

/-- The look in its two halves: it asks toward older messages first, then toward newer ones. -/
theorem exists_checkEdges_eq (hsize : inp.graph.size ≠ 0) (h : p.checkEdges inp = .ok q) :
    ∃ r, r = (if p.finds inp .older then p.requestIfIdle .older else p) ∧
      q = if p.finds inp .newer then r.requestIfIdle .newer else r := by
  rw [checkEdges, if_neg hsize] at h
  obtain ⟨mounted, hmounted, h⟩ := Checked.bind_eq_ok.1 h
  obtain ⟨near, hnear, h⟩ := Checked.bind_eq_ok.1 h
  cases h
  have hfinds := finds_of_around hsize hmounted
  refine ⟨_, rfl, ?_⟩
  simp [hfinds, Mounted.near, hnear, Except.toOption]

theorem checkEdges_of_empty (hsize : inp.graph.size = 0) :
    p.checkEdges inp = .ok (p.requestIfIdle .older) := by
  rw [checkEdges, if_pos hsize]
  rfl

/-- **The look asks through an idle gate** where it finds a reason. -/
theorem checkEdges_requested (h : p.checkEdges inp = .ok q) (hidle : p.state.gate d = .idle)
    (hfinds : p.finds inp d = true) : Requested d p q := by
  by_cases hsize : inp.graph.size = 0
  · rw [checkEdges_of_empty hsize] at h
    cases h
    rw [finds, if_pos hsize, beq_iff_eq] at hfinds
    subst hfinds
    exact requestIfIdle_of_idle hidle
  · obtain ⟨r, rfl, rfl⟩ := exists_checkEdges_eq hsize h
    cases d with
    | older =>
      rw [if_pos hfinds]
      exact (requestIfIdle_of_idle hidle).untouched (untouched_requestIf_of_ne (by decide) _ _)
    | newer =>
      rw [if_pos hfinds]
      have hbefore := untouched_requestIf_of_ne (d := .newer) (e := .older) (by decide)
        (p.finds inp .older = true) p
      exact hbefore.requested (requestIfIdle_of_idle (hbefore.gate.trans hidle))

/-- It asks for nothing where it finds none. -/
theorem checkEdges_untouched (h : p.checkEdges inp = .ok q) (hfinds : p.finds inp d = false) :
    Untouched d p q := by
  by_cases hsize : inp.graph.size = 0
  · rw [checkEdges_of_empty hsize] at h
    cases h
    rw [finds, if_pos hsize, beq_eq_false_iff_ne] at hfinds
    exact untouched_requestIfIdle_of_ne hfinds p
  · obtain ⟨r, rfl, rfl⟩ := exists_checkEdges_eq hsize h
    cases d with
    | older =>
      simp only [hfinds, Bool.false_eq_true, if_false]
      exact untouched_requestIf_of_ne (by decide) _ _
    | newer =>
      simp only [hfinds, Bool.false_eq_true, if_false]
      exact untouched_requestIf_of_ne (by decide) _ _

theorem Looks.untouched_of_empty {c : Bool} (h : Looks inp p q c) (hempty : inp.graph.size = 0) :
    Untouched .newer p q := by
  cases h with
  | away hquiet => exact hquiet.untouched .newer
  | closely hquiet hedges =>
    apply (hquiet.untouched .newer).trans
    apply checkEdges_untouched hedges
    rw [finds, if_pos hempty]
    rfl

end Progress

/-! ## Transitions -/

variable {s : WindowState} {event : Event} {inp : Inputs} {t : Transition} {d : Direction}

/-- **A transition asks for a page only where it looks at the loaded ends**, unless it repeats a
failed request. -/
theorem step_of_not_examines (haccepts : s.accepts event = true)
    (hretry : ∀ d, event ≠ .retry d) (hexamines : s.examines inp event = false)
    (h : step s event inp = .ok t) :
    t.state.gate d = (s.begun event).gate d ∧ .fetch d ∉ t.effects := by
  rw [step, if_pos haccepts] at h
  obtain ⟨q, hq, rfl⟩ := Checked.map_eq_ok.1 h
  have hlooks := Progress.handle_looks hretry hq
  rw [hexamines] at hlooks
  cases hlooks with
  | away hquiet =>
    have huntouched := hquiet.untouched d
    refine ⟨huntouched.gate, List.count_eq_zero.1 ?_⟩
    exact huntouched.count.trans (s.count_fetch_firstEffects event d)

/-- **Where nothing is loaded, newer messages are not asked for**: the gate toward them is as the
event leaves it by itself, unless the reader repeats a failed request. -/
theorem step_newer_of_empty (haccepts : s.accepts event = true) (hretry : event ≠ .retry .newer)
    (hempty : inp.graph.size = 0) (h : step s event inp = .ok t) :
    t.state.newer = (s.begun event).newer ∧ .fetch .newer ∉ t.effects := by
  rw [step, if_pos haccepts] at h
  obtain ⟨q, hq, rfl⟩ := Checked.map_eq_ok.1 h
  have huntouched : Progress.Untouched .newer (Progress.begin ⟨s, [], inp.offset⟩ event) q := by
    by_cases hretry' : ∃ d, event = .retry d
    · obtain ⟨d, rfl⟩ := hretry'
      cases hq
      have hne : d ≠ .newer := fun heq => hretry (heq ▸ rfl)
      exact Progress.untouched_requestIfIdle_of_ne hne.symm _
    · exact (Progress.handle_looks (fun d heq => hretry' ⟨d, heq⟩) hq).untouched_of_empty hempty
  refine ⟨huntouched.gate, List.count_eq_zero.1 ?_⟩
  exact huntouched.count.trans (s.count_fetch_firstEffects event .newer)

end Scrollback
