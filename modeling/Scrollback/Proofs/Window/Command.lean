import Scrollback.Proofs.Window.Coverage
import Scrollback.Proofs.Window.Faultless
/-!
# The commands of a window

A window carries out the scrolling of a transition itself, and leaves all other effects to its host.
Which pages it asks for is decided before anything is scrolled, by an offset that is only reckoned
with. The view comes to that very offset, so whoever looks at the window afterwards sees the range
that was decided on.

## Main statements

* `fetch_mem_commands` — page requests are among the commands as they are among the effects.
* `Window.handle_eq_ok` — one event is a transition, its scrolling, and its commands.
* `step_asks` — what an event that makes the window look asks for, and why.
* `Window.looks_at_mounted` — the same in terms of the range that is mounted afterwards.
-/

namespace Scrollback

/-! ## Commands -/

theorem Effect.command?_eq_fetch_iff {e : Effect} {d : Direction} :
    e.command? = some (.fetch d) ↔ e = .fetch d := by
  cases e <;> simp [Effect.command?]

theorem Effect.command?_eq_getMostRecent_iff {e : Effect} :
    e.command? = some .getMostRecent ↔ e = .getMostRecent := by
  cases e <;> simp [Effect.command?]

theorem fetch_mem_commands {es : List Effect} {d : Direction} :
    Command.fetch d ∈ es.filterMap Effect.command? ↔ Effect.fetch d ∈ es := by
  rw [List.mem_filterMap]
  simp only [Effect.command?_eq_fetch_iff, exists_eq_right]

/-- All page requests among the effects are left to the host. -/
theorem count_fetch_commands (es : List Effect) (d : Direction) :
    (es.filterMap Effect.command?).count (.fetch d) = es.count (.fetch d) := by
  rw [List.count_filterMap, List.count]
  refine List.countP_congr fun e _ => ?_
  rw [beq_iff_eq, Effect.command?_eq_fetch_iff, beq_iff_eq]

theorem Effect.command?_eq_dismissUnread_iff {e : Effect} :
    e.command? = some .dismissUnread ↔ e = .dismissUnread := by
  cases e <;> simp [Effect.command?]

theorem dismissUnread_mem_commands {es : List Effect} :
    Command.dismissUnread ∈ es.filterMap Effect.command? ↔ Effect.dismissUnread ∈ es := by
  rw [List.mem_filterMap]
  simp only [Effect.command?_eq_dismissUnread_iff, exists_eq_right]

theorem Effect.command?_eq_fetchFailed_iff {e : Effect} {d : Direction} {x : FetchError} :
    e.command? = some (.fetchFailed d x) ↔ e = .fetchFailed d x := by
  cases e <;> simp [Effect.command?]

theorem fetchFailed_mem_commands {es : List Effect} {d : Direction} {x : FetchError} :
    Command.fetchFailed d x ∈ es.filterMap Effect.command? ↔ Effect.fetchFailed d x ∈ es := by
  rw [List.mem_filterMap]
  simp only [Effect.command?_eq_fetchFailed_iff, exists_eq_right]

theorem getMostRecent_mem_commands {es : List Effect} :
    Command.getMostRecent ∈ es.filterMap Effect.command? ↔ Effect.getMostRecent ∈ es := by
  rw [List.mem_filterMap]
  simp only [Effect.command?_eq_getMostRecent_iff, exists_eq_right]

/-! ## Reasons to ask -/

namespace Progress

variable {inp : Inputs} {p : Progress} {d : Direction}

/-- The target draws the look in the direction in which it lies, as long as it is not reached. -/
theorem exists_target_of_targetDirection? (hsize : inp.graph.size ≠ 0)
    (h : p.targetDirection? inp = some d) : p.state.targetReached = false ∧
      ∃ target, inp.target = some target ∧ inp.graph.wayTo? target = some d := by
  cases haway : p.state.targetReached with
  | true =>
    rw [targetDirection?, haway] at h
    cases h
  | false =>
    cases htarget : inp.target with
    | none =>
      rw [targetDirection?, haway, htarget] at h
      cases h
    | some target =>
      rw [targetDirection?_eq htarget haway hsize] at h
      exact ⟨rfl, target, rfl, h⟩

end Progress

variable {s : WindowState} {event : Event} {inp : Inputs} {t : Transition} {v : Viewport}
  {w w' : Window} {g : Graph} {unread now : Nat} {commands : List Command}

/-- **What an event that makes the window look asks for**, in terms of the range that is mounted
once its effects are carried out: near a loaded end no gate stays idle, and a page is asked for near
that end or toward the target alone. -/
theorem step_asks (haccepts : s.accepts event = true) (hexamines : s.examines inp event = true)
    (hvisible : inp.visible = v.visible) (hoffset : inp.offset = v.offset inp.graph)
    (hscroll : ∀ offset, event = .scroll offset → v.offset inp.graph = offset)
    (hsize : inp.graph.size ≠ 0) (h : step s event inp = .ok t) :
    ∃ m, Mounted.around inp.graph.size
        ((t.effects.foldl (Viewport.apply inp.graph) v).offset inp.graph) inp.visible
        inp.policy.overscan = .ok m ∧
      (∀ d, m.near inp.graph.size inp.policy.fetchThreshold d = true → t.state.gate d ≠ .idle) ∧
      ∀ d, .fetch d ∈ t.effects → m.near inp.graph.size inp.policy.fetchThreshold d = true ∨
        t.state.targetReached = false ∧
          ∃ target, inp.target = some target ∧ inp.graph.wayTo? target = some d := by
  obtain ⟨r, q, hq, hquiet, hedges, rfl⟩ := step_looks haccepts hexamines h
  obtain ⟨m, hm⟩ := Progress.exists_around_of_checkEdges hsize hedges
  have hfinds := Progress.finds_of_around hsize hm
  -- the view comes to the offset that the look reckons with
  have haims := Progress.handle_aims hvisible (p := ⟨s, [], inp.offset⟩) hoffset hscroll hq
  rw [Progress.Aims, (Progress.rests_checkEdges hedges).offset] at haims
  rw [haims] at hm
  refine ⟨m, hm, fun d hnear => ?_, fun d hfetch => ?_⟩
  · exact Progress.checkEdges_ne_idle hedges (by rw [hfinds, hnear, Bool.true_or])
  · have hreason : r.finds inp d = true := by
      by_contra hnone
      -- neither what the event asks for first nor a quiet move is a page request
      have huntouched := (hquiet.untouched d).trans
        (Progress.checkEdges_untouched hedges (eq_false_of_ne_true hnone))
      have hcount := huntouched.count.trans (s.count_fetch_firstEffects event d)
      exact List.count_eq_zero.1 hcount hfetch
    rw [hfinds, Bool.or_eq_true, beq_iff_eq] at hreason
    rcases hreason with hnear | htoward
    · exact .inl hnear
    · obtain ⟨haway, htarget⟩ := Progress.exists_target_of_targetDirection? hsize htoward
      exact .inr ⟨(Progress.stays_checkEdges hedges).targetReached.trans haway, htarget⟩

/-! ## Windows -/

namespace Window

/-- One event is a transition: its scrolling is carried out, all else is left to the host. -/
theorem handle_eq_ok : w.handle event g unread now = .ok (w', commands) ↔
    ∃ t, step w.state event (w.inputs g unread now) = .ok t ∧
      { w with
        state := t.state
        viewport := t.effects.foldl (Viewport.apply g) w.viewport } = w' ∧
      t.effects.filterMap Effect.command? = commands := by
  rw [handle, Checked.bind_eq_ok]
  simp only [pure, Except.pure, Except.ok.injEq, Prod.mk.injEq]

/-- **A window looks at the range that is mounted afterwards.** Every event that makes it look is
carried out without a fault. Of the range that is mounted then, over loaded messages: where it comes
near the oldest or the newest of them, the gate of that direction is not idle, and where a page is
asked for, the range comes near that end, or the target is not reached and lies beyond it. -/
theorem looks_at_mounted (haccepts : w.state.accepts event = true)
    (hexamines : w.state.examines (w.inputs g unread now) event = true)
    (hscroll : ∀ offset, event = .scroll offset → w.viewport.offset g = offset)
    (hsize : g.size ≠ 0) (hfits : w.policy.Fits g.size) :
    ∃ w' commands m, w.handle event g unread now = .ok (w', commands) ∧ w'.mounted g = .ok m ∧
      (m.nearOldest w.policy.fetchThreshold = true → w'.state.older ≠ .idle) ∧
      (m.nearNewest g.size w.policy.fetchThreshold = .ok true → w'.state.newer ≠ .idle) ∧
      ∀ d, .fetch d ∈ commands → m.near g.size w.policy.fetchThreshold d = true ∨
        w'.state.targetReached = false ∧
          ∃ target, w.target = some target ∧ g.wayTo? target = some d := by
  obtain ⟨t, ht⟩ := exists_step (w.inputs g unread now) hfits w.state event
  obtain ⟨m, hm, hgates, hreasons⟩ := step_asks haccepts hexamines rfl rfl hscroll hsize ht
  have hmounted : Mounted.around g.size
      ((t.effects.foldl (Viewport.apply g) w.viewport).offset g)
      (t.effects.foldl (Viewport.apply g) w.viewport).visible w.policy.overscan = .ok m := by
    rw [Viewport.visible_foldl_apply]
    exact hm
  refine ⟨_, _, m, handle_eq_ok.2 ⟨t, ht, rfl, rfl⟩, hmounted, hgates .older, ?_, ?_⟩
  · intro hnear
    exact hgates .newer (beq_iff_eq.2 (congrArg Except.toOption hnear))
  · intro d hfetch
    exact hreasons d (fetch_mem_commands.1 hfetch)

/-- A locked view of three rows goes to the second of nine messages. The first one is mounted then,
and older ones are asked for. -/
theorem looks_at_mounted_second : ∃ w w' : Window, ∃ g, g.size = 9 ∧
    w.handle .jumpToUnread g 8 0 = .ok (w', [.fetch .older]) ∧ w'.mounted g = .ok ⟨0, 5⟩ ∧
      w'.state.older ≠ .idle := by
  let second : MessageIndex := ⟨2, by decide⟩
  let g := Graph.ofEntries
    [⟨⟨1, by decide⟩, .deleted⟩, ⟨second, .deleted⟩, ⟨⟨3, by decide⟩, .deleted⟩,
      ⟨⟨4, by decide⟩, .deleted⟩, ⟨⟨5, by decide⟩, .deleted⟩, ⟨⟨6, by decide⟩, .deleted⟩,
      ⟨⟨7, by decide⟩, .deleted⟩, ⟨⟨8, by decide⟩, .deleted⟩, ⟨⟨9, by decide⟩, .deleted⟩]
  let w : Window :=
    { state := { scroll := .lockedToBottom, unreadIndex := some second }
      viewport := { height := 3 }
      policy := { overscan := 1, fetchThreshold := 1 } }
  have hsize : g.size = 9 := by decide +kernel
  obtain ⟨w', commands, m, hhandle, hm, holdest, -, -⟩ :=
    @looks_at_mounted .jumpToUnread w g 8 0 (by decide) (by decide) nofun (by decide +kernel)
      (by decide +kernel)
  have hcommands : (w.handle .jumpToUnread g 8 0).map Prod.snd = .ok [.fetch .older] := by
    decide +kernel
  have hrange : ((w.handle .jumpToUnread g 8 0).bind fun r => r.1.mounted g) = .ok ⟨0, 5⟩ := by
    decide +kernel
  rw [hhandle] at hcommands hrange
  cases hcommands
  cases hm.symm.trans hrange
  exact ⟨w, w', g, hsize, hhandle, hrange, holdest (by decide)⟩

end Window

end Scrollback
