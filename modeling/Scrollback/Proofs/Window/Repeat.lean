import Scrollback.Proofs.Window.Coverage
import Scrollback.Proofs.Window.Dismissal
import Scrollback.Proofs.Window.Faultless
/-!
# Events that are told again

Most events have their whole effect when they are told for the first time. A window that is told of
them again, with nothing changed in between, stays as it is and asks for nothing. Only jumps and
exchanges are carried out as often as they are told, and a page that leaves more to load may have
been asked for again meanwhile.

## Main definitions

* `Event.actsOnce` — the event has its whole effect the first time.
* `WindowState.Ignores` — the event leaves a window as it is and has no effects.

## Main statements

* `Progress.checkEdges_again` — a second look at the loaded ends asks for nothing.
* `Progress.handle_again` — a state that an event has led to ignores it.
* `step_repeated` — a transition that is repeated, however often, is quiet.
-/

namespace Scrollback

/-- The event has its whole effect the first time that it is told. -/
def Event.actsOnce : Event → Bool
  | .jumpToLatest | .jumpToUnread | .reset | .settled _ (.loaded .more) => false
  | _ => true

/-- The event leaves a window as it is and has no effects. -/
def WindowState.Ignores (s : WindowState) (inp : Inputs) (event : Event) : Prop :=
  ∃ offset, Progress.handle inp event ⟨s, [], inp.offset⟩ = .ok ⟨s, [], offset⟩

namespace Progress

variable {s : WindowState} {inp : Inputs} {p q r : Progress} {d : Direction} {offset : Nat}
  {event : Event}

/-! ## Moves that have nothing left to do -/

/-- Unread messages that were counted already are no news. -/
theorem trackUnread_of_prevUnread_eq (h : p.state.prevUnread = inp.unread) :
    p.trackUnread inp = p := by
  have hgrown : ¬ p.state.prevUnread < inp.unread := by omega
  have hclosed : ¬ (inp.unread = 0 ∧ 0 < p.state.prevUnread) := by omega
  rw [trackUnread]
  simp only [if_neg hgrown, if_neg hclosed]
  rw [update, ← h]

/-- The target was reached, or it is not loaded. -/
def NowhereToGo (inp : Inputs) (s : WindowState) : Prop :=
  s.targetReached = true ∨ ∃ target, inp.target = some target ∧ inp.graph.contains target = false

theorem nowhereToGo_reachTarget (inp : Inputs) (p : Progress) :
    NowhereToGo inp (p.reachTarget inp).state := by
  rw [reachTarget]
  split
  · exact .inl ‹_›
  · split
    · exact .inl rfl
    · next target htarget =>
      split
      · exact .inl (targetReached_scrollToIndex ..)
      · next hfar => exact .inr ⟨target, htarget, eq_false_of_ne_true hfar⟩

theorem reachTarget_of_nowhereToGo (h : NowhereToGo inp p.state) : p.reachTarget inp = p := by
  rw [reachTarget]
  split
  · rfl
  · next haway =>
    obtain ⟨target, htarget, hfar⟩ := h.resolve_left haway
    simp only [htarget, hfar, Bool.false_eq_true, if_false]

/-- What the window has tried to dismiss is dismissed, or there is nobody to see it. -/
theorem tryDismiss_spent (inp : Inputs) (p : Progress) :
    ¬ ((p.tryDismiss inp).state.unreadDismissed = false ∧ inp.Attended p.offset) := by
  rcases tryDismiss_cases inp p with ⟨hnot, heq⟩ | ⟨-, heq⟩
  · rwa [heq]
  · rw [heq]
    rintro ⟨hopen, -⟩
    cases hopen

theorem tryDismiss_of_spent (h : ¬ (p.state.unreadDismissed = false ∧ inp.Attended p.offset)) :
    p.tryDismiss inp = p := by
  rcases tryDismiss_cases inp p with ⟨-, heq⟩ | ⟨hdue, -⟩
  · exact heq
  · exact absurd hdue h

theorem requestIf_eq_self {c : Prop} [Decidable c] (h : c → p.state.gate d ≠ .idle) :
    (if c then p.requestIfIdle d else p) = p := by
  split
  · next hc => exact requestIfIdle_of_ne_idle (h hc)
  · rfl

theorem exists_checkEdges_congr (h : p.checkEdges inp = .ok q) (hoffset : r.offset = p.offset) :
    ∃ r', r.checkEdges inp = .ok r' := by
  by_cases hsize : inp.graph.size = 0
  · exact ⟨_, checkEdges_of_empty hsize⟩
  · rw [checkEdges, if_neg hsize] at h ⊢
    obtain ⟨m, hm, h⟩ := Checked.bind_eq_ok.1 h
    obtain ⟨near, hnear, -⟩ := Checked.bind_eq_ok.1 h
    rw [hoffset]
    exact ⟨_, Checked.bind_eq_ok.2 ⟨m, hm, Checked.bind_eq_ok.2 ⟨near, hnear, rfl⟩⟩⟩

/-- **A second look at the loaded ends asks for nothing**, from the same offset. -/
theorem checkEdges_again (h : p.checkEdges inp = .ok q) (hoffset : r.offset = p.offset)
    (hstate : r.state = q.state) : r.checkEdges inp = .ok r := by
  have hreached : r.state.targetReached = p.state.targetReached := by
    rw [hstate, (stays_checkEdges h).targetReached]
  -- wherever the look finds a reason to ask, it has asked already
  have hclosed (d : Direction) (hfinds : r.finds inp d = true) : r.state.gate d ≠ .idle := by
    rw [hstate]
    exact checkEdges_ne_idle h (finds_congr hoffset hreached ▸ hfinds)
  obtain ⟨r', hr⟩ := exists_checkEdges_congr h hoffset
  by_cases hsize : inp.graph.size = 0
  · have holder : r.finds inp .older = true := by
      rw [finds, if_pos hsize]
      rfl
    rw [checkEdges_of_empty hsize, requestIfIdle_of_ne_idle (hclosed .older holder)]
  · obtain ⟨half, rfl, rfl⟩ := exists_checkEdges_eq hsize hr
    rw [requestIf_eq_self (hclosed .older), requestIf_eq_self (hclosed .newer)] at hr
    exact hr

/-! ## What a scroll changes by itself -/

/-- The state of a window that the reader has scrolled to an offset, before anything comes of it. -/
def heed (inp : Inputs) (offset : Nat) (s : WindowState) : WindowState :=
  { (if inp.policy.idleThreshold < offset then { s with idle := true }
      else if inp.focused then { s with idle := false, lastActivity := some inp.now }
      else s) with
    scroll := modeAt offset }

theorem scrolled_eq (inp : Inputs) (offset : Nat) (p : Progress) : p.scrolled inp offset =
    (tryDismiss inp ⟨heed inp offset p.state, p.effects, offset⟩).checkEdges inp := by
  rw [scrolled, heed, touch]
  split
  · rfl
  · split <;> rfl

/-- A dismissal and requests for pages do not bear on what a scroll changes. -/
theorem heed_heed (inp : Inputs) (offset : Nat) (s : WindowState) (older newer : Gate)
    (dismissed : Bool) :
    heed inp offset
        { heed inp offset s with older := older, newer := newer, unreadDismissed := dismissed } =
      { heed inp offset s with older := older, newer := newer, unreadDismissed := dismissed } := by
  simp only [heed]
  split
  · rfl
  · split <;> rfl

theorem tryDismiss_frame (inp : Inputs) (p : Progress) : (p.tryDismiss inp).offset = p.offset ∧
    ∃ dismissed, (p.tryDismiss inp).state = { p.state with unreadDismissed := dismissed } := by
  rcases tryDismiss_cases inp p with ⟨-, heq⟩ | ⟨-, heq⟩
  · rw [heq]
    exact ⟨rfl, _, rfl⟩
  · rw [heq]
    exact ⟨rfl, _, rfl⟩

theorem checkEdges_frame (h : p.checkEdges inp = .ok q) :
    ∃ older newer, q.state = { p.state with older := older, newer := newer } := by
  refine checkEdges_induction
    (P := fun r => ∃ older newer, r.state = { p.state with older := older, newer := newer })
    ⟨_, _, rfl⟩ (fun d r hr => ?_) h
  obtain ⟨older, newer, heq⟩ := hr
  rw [requestIfIdle]
  split
  · cases d with
    | older => exact ⟨.pending, newer, by rw [emit, update, heq]; rfl⟩
    | newer => exact ⟨older, .pending, by rw [emit, update, heq]; rfl⟩
  · exact ⟨older, newer, heq⟩

/-! ## Events -/

theorem scrolled_again (h : p.scrolled inp offset = .ok q) :
    q.state.Ignores inp (.scroll offset) := by
  rw [scrolled_eq] at h
  obtain ⟨hoffset, dismissed, hdismissed⟩ :=
    tryDismiss_frame inp ⟨heed inp offset p.state, p.effects, offset⟩
  have hspent := tryDismiss_spent inp ⟨heed inp offset p.state, p.effects, offset⟩
  obtain ⟨older, newer, hgates⟩ := checkEdges_frame h
  refine ⟨offset, ?_⟩
  have hheed : heed inp offset q.state = q.state := by
    rw [hgates, hdismissed]
    exact heed_heed inp offset p.state older newer dismissed
  have hsame : q.state.unreadDismissed =
      (tryDismiss inp ⟨heed inp offset p.state, p.effects, offset⟩).state.unreadDismissed := by
    rw [hgates]
  rw [handle, scrolled_eq, hheed, tryDismiss_of_spent (by rwa [hsame])]
  exact checkEdges_again h hoffset.symm rfl

theorem refresh_again (h : p.refresh inp = .ok q) : q.state.Ignores inp .update := by
  have hwatches := refresh_watches h
  have hsize : inp.graph.size = q.state.prevSize := hwatches.prevSize.symm
  have hunread : q.state.prevUnread = inp.unread :=
    hwatches.prevUnread.trans (prevUnread_look_update inp p)
  obtain ⟨r, -, hlast⟩ := refresh_reaches h
  have htarget : NowhereToGo inp q.state := by
    rw [NowhereToGo, hlast.targetReached]
    exact nowhereToGo_reachTarget inp r
  let again : Progress := ⟨q.state, [], inp.offset⟩
  have htracked : again.trackUnread inp = again := trackUnread_of_prevUnread_eq hunread
  have hlook : again.look inp .update = again := by
    rw [look, htracked, hsize]
    rfl
  have hreach : again.reachTarget inp = again := reachTarget_of_nowhereToGo htarget
  refine ⟨inp.offset, (refresh_of_size_eq (p := again) hsize).trans ?_⟩
  rw [hlook, hreach]

/-- A failure and a last page leave no page on its way in their direction. -/
theorem gate_ne_pending_of_settled {result : FetchResult} (hmore : result ≠ .loaded .more)
    (h : p.settled inp d result = .ok q) : q.state.gate d ≠ .pending := by
  by_cases hpending : p.state.gate d = .pending
  · match result with
    | .failed e =>
      rw [settled.eq_def, if_neg (not_not_intro hpending)] at h
      cases h
      exact (p.state.gate_setGate d .idle).trans_ne Gate.noConfusion
    | .loaded .more => exact absurd rfl hmore
    | .loaded .exhausted =>
      have hbegun : (p.begin (.settled d (.loaded .exhausted))).state.gate d = .exhausted :=
        (congrArg (·.gate d) (WindowState.begun_settled hpending _)).trans
          (p.state.gate_setGate d .exhausted)
      have hmoves : Moves (p.begin (.settled d (.loaded .exhausted))) q := handle_moves h
      -- the look that follows asks through idle gates alone
      rcases hmoves.untouched_or_requested d with huntouched | hrequested
      · rw [huntouched.gate, hbegun]
        exact Gate.noConfusion
      · cases hbegun.symm.trans hrequested.was_idle
  · rw [settled.eq_def, if_pos hpending] at h
    cases h
    exact hpending

theorem settled_again {result : FetchResult} (hmore : result ≠ .loaded .more)
    (h : p.settled inp d result = .ok q) : q.state.Ignores inp (.settled d result) :=
  ⟨inp.offset, if_pos (gate_ne_pending_of_settled hmore h)⟩

theorem focusChanged_again (inp : Inputs) (focused : Bool) (s : WindowState) :
    (focusChanged inp focused ⟨s, [], inp.offset⟩).state.Ignores inp (.focus focused) := by
  cases focused with
  | false => exact ⟨inp.offset, rfl⟩
  | true =>
    let p : Progress := markActive inp ⟨s, [], inp.offset⟩
    let again : Progress := ⟨(p.tryDismiss inp).state, [], inp.offset⟩
    obtain ⟨-, dismissed, hdismissed⟩ := tryDismiss_frame inp p
    have hactive : again.markActive inp = again := by
      simp only [again, markActive, update]
      rw [hdismissed]
      rfl
    have hspent : again.tryDismiss inp = again := tryDismiss_of_spent (tryDismiss_spent inp p)
    exact ⟨inp.offset, congrArg Except.ok ((congrArg (tryDismiss inp) hactive).trans hspent)⟩

theorem ticked_again (inp : Inputs) (s : WindowState) :
    (ticked inp ⟨s, [], inp.offset⟩).state.Ignores inp .tick := by
  refine ⟨inp.offset, congrArg Except.ok ?_⟩
  by_cases hidle : (ticked inp ⟨s, [], inp.offset⟩).state.idle = true
  · exact if_pos hidle
  · -- the reader has not gone idle, so nothing has changed
    have hsame : ticked inp ⟨s, [], inp.offset⟩ = ⟨s, [], inp.offset⟩ := by
      rw [ticked]
      split
      · rfl
      · next hactive =>
        split
        · next hexpired =>
          rw [ticked, if_neg hactive, if_pos hexpired] at hidle
          exact absurd rfl hidle
        · rfl
    rw [hsame]
    exact hsame

theorem retry_again (inp : Inputs) (d : Direction) (p : Progress) :
    (p.requestIfIdle d).state.Ignores inp (.retry d) := by
  have hclosed : (p.requestIfIdle d).state.gate d ≠ .idle := by
    by_cases hidle : p.state.gate d = .idle
    · rw [(requestIfIdle_of_idle hidle).pending]
      exact Gate.noConfusion
    · rwa [requestIfIdle_of_ne_idle hidle]
  exact ⟨inp.offset, congrArg Except.ok (requestIfIdle_of_ne_idle hclosed)⟩

/-- **A state that an event has led to ignores it** from then on. -/
theorem handle_again (hevent : event.actsOnce = true)
    (h : handle inp event ⟨s, [], inp.offset⟩ = .ok q) : q.state.Ignores inp event := by
  cases event with
  | mount => exact ⟨inp.offset, if_pos (mount_scroll h)⟩
  | update => exact refresh_again h
  | scroll offset => exact scrolled_again h
  | settled d result =>
    refine settled_again ?_ h
    rintro rfl
    cases hevent
  | focus focused =>
    cases h
    exact focusChanged_again inp focused s
  | tick =>
    cases h
    exact ticked_again inp s
  | retry d =>
    cases h
    exact retry_again inp d _
  | teardown =>
    cases h
    exact ⟨inp.offset, rfl⟩
  | jumpToLatest => cases hevent
  | jumpToUnread => cases hevent
  | reset => cases hevent

end Progress

/-! ## Transitions -/

variable {s : WindowState} {event : Event} {inp : Inputs} {t : Transition}

theorem step_of_ignores (h : s.accepts event = true → s.Ignores inp event) :
    step s event inp = .ok ⟨s, []⟩ := by
  cases haccepts : s.accepts event with
  | false => rw [step, haccepts, if_neg Bool.false_ne_true]
  | true =>
    obtain ⟨offset, hignores⟩ := h haccepts
    rw [step, if_pos haccepts, hignores]
    rfl

/-- An event that is told again finds a window that ignores it, or does not take notice of it. -/
theorem step_again (hevent : event.actsOnce = true) (h : step s event inp = .ok t) :
    step t.state event inp = .ok ⟨t.state, []⟩ := by
  refine step_of_ignores fun haccepts' => ?_
  cases haccepts : s.accepts event with
  | false =>
    rw [step_of_not_accepts haccepts h, haccepts] at haccepts'
    cases haccepts'
  | true =>
    rw [step, if_pos haccepts] at h
    obtain ⟨q, hq, rfl⟩ := Checked.map_eq_ok.1 h
    exact Progress.handle_again hevent hq

/-- However often it is told, a window that it does not change any more stays as it is. -/
theorem steps_replicate (h : step s event inp = .ok ⟨s, []⟩) (n : Nat) :
    steps s (List.replicate n (event, inp)) = .ok (List.replicate n ⟨s, []⟩) := by
  induction n with
  | zero => rfl
  | succ n ih =>
    rw [List.replicate_succ, List.replicate_succ, steps, h]
    simp only [bind, Except.bind, ih]
    rfl

/-- **Telling an event again is quiet.** With all inputs as they were, a window that is told again of
an event that acts once stays as the first time has left it and asks for nothing, and it goes on so
however often it is told. The first time does not fault where the policy fits what is loaded, and
the other times do not fault at all. -/
theorem step_repeated (hevent : event.actsOnce = true) (s : WindowState) (inp : Inputs) :
    (∀ t, step s event inp = .ok t →
      step t.state event inp = .ok ⟨t.state, []⟩ ∧
      ∀ n, steps s (List.replicate (n + 1) (event, inp)) =
        .ok (t :: List.replicate n ⟨t.state, []⟩)) ∧
    (inp.policy.Fits inp.graph.size → ∃ t, step s event inp = .ok t) := by
  refine ⟨fun t h => ?_, fun hfits => exists_step inp hfits s event⟩
  have hquiet := step_again hevent h
  refine ⟨hquiet, fun n => ?_⟩
  rw [List.replicate_succ, steps, h]
  simp only [bind, Except.bind, steps_replicate hquiet n]
  rfl

/-- A glance at the newest of three messages dismisses what is unread and asks for pages in both
directions. A second glance does neither. -/
theorem step_repeated_glance : ∃ (s : WindowState) (inp : Inputs) (t : Transition),
    step s (.scroll 0) inp = .ok t ∧
      t.effects = [.dismissUnread, .fetch .older, .fetch .newer] ∧
      step t.state (.scroll 0) inp = .ok ⟨t.state, []⟩ := by
  let g := Graph.ofEntries
    [⟨⟨1, by decide⟩, .deleted⟩, ⟨⟨2, by decide⟩, .deleted⟩, ⟨⟨3, by decide⟩, .deleted⟩]
  let s : WindowState := { scroll := .freeScroll, prevSize := 3, prevUnread := 1 }
  let inp : Inputs :=
    { graph := g, unread := 1, target := none, focused := true, offset := 1, visible := 2, now := 7,
      policy := {} }
  obtain ⟨hagain, hexists⟩ := @step_repeated (.scroll 0) rfl s inp
  obtain ⟨t, ht⟩ := hexists (by decide +kernel)
  have heffects : (step s (.scroll 0) inp).map Transition.effects =
      .ok [.dismissUnread, .fetch .older, .fetch .newer] := by decide +kernel
  rw [ht] at heffects
  exact ⟨s, inp, t, ht, Except.ok.inj heffects, (hagain t ht).1⟩

end Scrollback
