import Scrollback.Proofs.Window.Ends
import Scrollback.Proofs.Window.Episode
import Scrollback.Proofs.Window.View
/-!
# Failed requests

A failed request opens its gate again, and the reader may repeat it. The window itself looks at the
loaded ends only when their number changes, so that it does not repeat the request while nothing is
loaded. There is one exception: a page that arrives in the other direction makes it look at both
ends, and then it asks again in the direction that has failed.

## Main definitions

* `Event.leaves` — the event does not turn the reader toward the end of a direction.
* `WindowState.asksAgain` — a page of the other direction makes the window ask again.
* `WindowState.Waits` — the window has nothing to ask for in a direction.

## Main statements

* `WindowState.Waits.step` — it goes on waiting where nothing makes it ask again.
* `asks_again_iff` — a failed request is repeated just if a page of the other direction does it.
-/

namespace Scrollback

/-- The event is no scroll, jump or exchange, and does not repeat a request in the direction. -/
def Event.leaves (d : Direction) : Event → Bool
  | .scroll _ | .jumpToLatest | .jumpToUnread | .reset => false
  | .retry e => e != d
  | _ => true

namespace Progress

variable {inp : Inputs} {p q : Progress} {d e : Direction} {outcome : FetchOutcome}

theorem offset_recomputeUnread (inp : Inputs) (p : Progress) :
    (p.recomputeUnread inp).offset = p.offset := by
  rw [recomputeUnread]
  split <;> rfl

/-- A page that was waited for makes the window look at the ends, from where it was. -/
theorem exists_settled_look (hne : d ≠ e) (hpending : p.state.gate e = .pending)
    (h : p.settled inp e (.loaded outcome) = .ok q) :
    ∃ r : Progress, Untouched d p r ∧ r.offset = p.offset ∧
      r.state.targetReached = p.state.targetReached ∧
        (r.reachTarget inp).checkEdges inp = .ok q := by
  have hset (g : Gate) : Untouched d p (p.update (·.setGate e g)) :=
    ⟨WindowState.gate_setGate_of_ne _ hne g, rfl⟩
  have hreached (g : Gate) :
      (p.update (·.setGate e g)).state.targetReached = p.state.targetReached := by
    cases e <;> rfl
  unfold settled at h
  rw [if_neg (not_not_intro hpending)] at h
  by_cases he : e = .older
  · simp only [if_pos he] at h
    refine ⟨_, (hset _).trans ((quiet_recomputeUnread inp _).untouched d), ?_, ?_, h⟩
    · exact offset_recomputeUnread inp _
    · exact (stays_recomputeUnread inp _).targetReached.trans (hreached _)
  · simp only [if_neg he] at h
    exact ⟨_, hset _, rfl, hreached _, h⟩

/-- Then it asks in the other direction through an idle gate, if it finds a reason to. -/
theorem settled_requested (hne : d ≠ e) (hpending : p.state.gate e = .pending)
    (hidle : p.state.gate d = .idle) (hfinds : (p.reachTarget inp).finds inp d = true)
    (h : p.settled inp e (.loaded outcome) = .ok q) : Requested d p q := by
  obtain ⟨r, huntouched, hoffset, hreached, hedges⟩ := exists_settled_look hne hpending h
  have hbefore := huntouched.trans ((quiet_reachTarget inp r).untouched d)
  rw [← finds_reachTarget_congr hoffset hreached] at hfinds
  exact hbefore.requested (checkEdges_requested hedges (hbefore.gate.trans hidle) hfinds)

theorem settled_untouched (hne : d ≠ e) (hpending : p.state.gate e = .pending)
    (hfinds : (p.reachTarget inp).finds inp d = false)
    (h : p.settled inp e (.loaded outcome) = .ok q) : Untouched d p q := by
  obtain ⟨r, huntouched, hoffset, hreached, hedges⟩ := exists_settled_look hne hpending h
  have hbefore := huntouched.trans ((quiet_reachTarget inp r).untouched d)
  rw [← finds_reachTarget_congr hoffset hreached] at hfinds
  exact hbefore.trans (checkEdges_untouched hedges hfinds)

end Progress

namespace WindowState

variable {s : WindowState} {event : Event} {inp : Inputs} {t : Transition} {d : Direction}
  {size : Nat}

/-- A page of the other direction, which the window waits for, makes it look at the loaded ends and
ask for a page. -/
def asksAgain (s : WindowState) (d : Direction) (inp : Inputs) : Event → Bool
  | .settled e (.loaded _) => s.isMounted && e != d && s.gate e == .pending &&
      (Progress.reachTarget inp ⟨s, [], inp.offset⟩).finds inp d
  | _ => false

/-- A window on screen that knows how many messages are loaded, and has not asked for a page. -/
structure Waits (d : Direction) (size : Nat) (s : WindowState) : Prop where
  idle : s.gate d = .idle
  prevSize : s.prevSize = size
  scroll : s.scroll ≠ .initializing

theorem step_asksAgain (hidle : s.gate d = .idle) (hagain : s.asksAgain d inp event = true)
    (h : step s event inp = .ok t) : .fetch d ∈ t.effects := by
  cases event with
  | settled e result =>
    cases result with
    | failed error => cases hagain
    | loaded outcome =>
      simp only [asksAgain, Bool.and_eq_true, bne_iff_ne, beq_iff_eq] at hagain
      obtain ⟨⟨⟨hmounted, hne⟩, hpending⟩, hfinds⟩ := hagain
      rw [step, if_pos (accepts_of_isMounted hmounted _)] at h
      obtain ⟨q, hq, rfl⟩ := Checked.map_eq_ok.1 h
      have hrequested := Progress.settled_requested hne.symm hpending hidle hfinds hq
      apply List.count_pos_iff.1
      rw [Progress.finish, hrequested.count]
      exact Nat.succ_pos _
  | _ => cases hagain

/-- An event that finds the window waiting looks at the loaded ends only if a page has come in the
other direction. -/
theorem Waits.examines (hs : s.Waits d size) (hsize : inp.graph.size = size)
    (he : event.leaves d = true) : s.examines inp event = false ∨
      ∃ e outcome, event = .settled e (.loaded outcome) ∧ d ≠ e ∧ s.gate e = .pending := by
  cases event with
  | mount => exact .inl (decide_eq_false hs.scroll)
  | update => exact .inl (decide_eq_false (not_not_intro (hsize.trans hs.prevSize.symm)))
  | settled e result =>
    cases result with
    | failed error => exact .inl (Bool.and_false _)
    | loaded outcome =>
      by_cases hpending : s.gate e = .pending
      · refine .inr ⟨e, outcome, rfl, ?_, hpending⟩
        rintro rfl
        rw [hs.idle] at hpending
        cases hpending
      · exact .inl (by simp [WindowState.examines, hpending])
  | focus focused => exact .inl rfl
  | tick => exact .inl rfl
  | retry e => exact .inl rfl
  | teardown => exact .inl rfl
  | scroll offset => cases he
  | jumpToLatest => cases he
  | jumpToUnread => cases he
  | reset => cases he

/-- No page is asked for where no page has come in the other direction. -/
theorem Waits.step_gate (hs : s.Waits d size) (hsize : inp.graph.size = size)
    (he : event.leaves d = true) (haccepts : s.accepts event = true)
    (hagain : s.asksAgain d inp event = false) (h : step s event inp = .ok t) :
    t.state.gate d = .idle ∧ .fetch d ∉ t.effects := by
  rcases hs.examines hsize he with hexamines | ⟨e, outcome, rfl, hne, hpending⟩
  · by_cases hretry : ∃ e, event = .retry e
    · obtain ⟨e, rfl⟩ := hretry
      rw [step, if_pos haccepts] at h
      cases h
      have hne : d ≠ e := by
        rintro rfl
        simp [Event.leaves] at he
      have huntouched := Progress.untouched_requestIfIdle_of_ne hne ⟨s, [], inp.offset⟩
      exact ⟨huntouched.gate.trans hs.idle, List.count_eq_zero.1 huntouched.count⟩
    · obtain ⟨hgate, hnot⟩ :=
        step_of_not_examines (d := d) haccepts (fun e heq => hretry ⟨e, heq⟩) hexamines h
      exact ⟨hgate.trans (begun_gate_of_idle hs.idle), hnot⟩
  · have hmounted := isMounted_of_accepts haccepts rfl
    have hfinds : (Progress.reachTarget inp ⟨s, [], inp.offset⟩).finds inp d = false := by
      simpa [asksAgain, hmounted, hne.symm, hpending] using hagain
    rw [step, if_pos haccepts] at h
    obtain ⟨q, hq, rfl⟩ := Checked.map_eq_ok.1 h
    have huntouched := Progress.settled_untouched hne hpending hfinds hq
    exact ⟨huntouched.gate.trans hs.idle, List.count_eq_zero.1 huntouched.count⟩

/-- **A window goes on waiting** where no page of the other direction makes it ask again. -/
theorem Waits.step (hs : s.Waits d size) (hsize : inp.graph.size = size)
    (he : event.leaves d = true) (hagain : s.asksAgain d inp event = false)
    (h : step s event inp = .ok t) : t.state.Waits d size ∧ .fetch d ∉ t.effects := by
  cases haccepts : s.accepts event with
  | false =>
    rw [step_of_not_accepts haccepts h]
    exact ⟨hs, List.not_mem_nil⟩
  | true =>
    obtain ⟨hidle, hnot⟩ := hs.step_gate hsize he haccepts hagain h
    have hprev : t.state.prevSize = size := by
      rcases step_prevSize haccepts h with hnow | ⟨-, -, hsame⟩
      · exact hnow.trans hsize
      · exact hsame.trans hs.prevSize
    have hscroll : t.state.scroll ≠ .initializing := by
      obtain ⟨q, hmoves, rfl⟩ := step_moves haccepts h
      apply hmoves.scroll
      exact (s.begun_scroll event).symm ▸ hs.scroll
    exact ⟨⟨hidle, hprev, hscroll⟩, hnot⟩

end WindowState

/-! ## Runs -/

variable {s : WindowState} {inp : Inputs} {t : Transition} {ts : List Transition} {d : Direction}
  {error : FetchError} {rest : List (Event × Inputs)} {size : Nat}

/-- Each event of a run with its inputs and the state that it comes upon. -/
def comesUpon (s : WindowState) (ts : List Transition) (events : List (Event × Inputs)) :
    List (WindowState × Event × Inputs) :=
  (s :: ts.map (·.state)).zip events

/-- A waiting window asks just if some page of the other direction makes it ask. -/
theorem WindowState.Waits.steps (hs : s.Waits d size)
    (hrest : ∀ x ∈ rest, x.1.leaves d = true ∧ x.2.graph.size = size)
    (hts : steps s rest = .ok ts) : (∃ t ∈ ts, .fetch d ∈ t.effects) ↔
      ∃ x ∈ comesUpon s ts rest, x.1.asksAgain d x.2.2 x.2.1 = true := by
  induction rest generalizing s ts with
  | nil =>
    cases hts
    simp [comesUpon]
  | cons x rest ih =>
    obtain ⟨event, inp⟩ := x
    obtain ⟨t, ht, hts⟩ := Checked.bind_eq_ok.1 hts
    obtain ⟨after, hafter, heq⟩ := Checked.bind_eq_ok.1 hts
    cases heq
    obtain ⟨⟨hevent, hsize⟩, hrest⟩ := List.forall_mem_cons.1 hrest
    have hfirst : comesUpon s (t :: after) ((event, inp) :: rest) =
        (s, event, inp) :: comesUpon t.state after rest := rfl
    rw [hfirst]
    cases hagain : s.asksAgain d inp event with
    | true =>
      have hfetch := step_asksAgain hs.idle hagain ht
      exact iff_of_true ⟨t, List.mem_cons_self .., hfetch⟩ ⟨_, List.mem_cons_self .., hagain⟩
    | false =>
      obtain ⟨hwaits, hnot⟩ := hs.step hsize hevent hagain ht
      simp only [List.mem_cons, exists_eq_or_imp, hnot, hagain, Bool.false_eq_true, false_or]
      exact ih hwaits hrest hafter

/-- **When a failed request is repeated.** A request fails that the window has waited for, in a
window that knows how many messages are loaded. Then their number stays, nobody scrolls, jumps,
exchanges the messages or repeats the request, and anything else happens. The failure itself asks
for nothing. Afterwards the window asks again in the direction just if a page that it waits for in
the other direction arrives while the view is near the end that has failed, or while the target lies
beyond it. -/
theorem asks_again_iff (haccepts : s.accepts (.settled d (.failed error)) = true)
    (hpending : s.gate d = .pending) (hsize : s.prevSize = inp.graph.size)
    (ht : step s (.settled d (.failed error)) inp = .ok t)
    (hrest : ∀ x ∈ rest, x.1.leaves d = true ∧ x.2.graph.size = inp.graph.size)
    (hts : steps t.state rest = .ok ts) :
    .fetch d ∉ t.effects ∧ ((∃ t' ∈ ts, .fetch d ∈ t'.effects) ↔
      ∃ x ∈ comesUpon t.state ts rest, x.1.asksAgain d x.2.2 x.2.1 = true) := by
  have hscroll := (WindowState.isMounted_iff.1 (WindowState.isMounted_of_accepts haccepts rfl)).2
  rw [step, if_pos haccepts] at ht
  obtain ⟨q, hq, rfl⟩ := Checked.map_eq_ok.1 ht
  rw [Progress.handle, Progress.settled.eq_def, if_neg (not_not_intro hpending)] at hq
  cases hq
  have hwaits : (s.setGate d .idle).Waits d inp.graph.size := by
    constructor
    · exact s.gate_setGate d .idle
    · rw [← hsize]
      cases d <;> rfl
    · rw [WindowState.scroll_setGate]
      exact hscroll
  refine ⟨?_, hwaits.steps hrest hts⟩
  simp [Progress.finish, Progress.emit, Progress.update]

/-- A window of three rows over one message. -/
def overOne : Inputs where
  graph := Graph.empty.insert .first .deleted
  unread := 0
  target := none
  focused := true
  offset := 0
  visible := 3
  now := 0
  policy := {}

/-- Where the other request fails as well, nothing is asked for again. -/
theorem asks_again_iff_both_failed : ∃ s t ts, steps {} [(.mount, overOne)] =
      .ok [⟨s, [.scrollToLatest, .fetch .older, .fetch .newer]⟩] ∧
    step s (.settled .older (.failed .timeout)) overOne = .ok t ∧
    steps t.state [(.update, overOne), (.settled .newer (.failed .timeout), overOne),
      (.focus true, overOne), (.tick, overOne)] = .ok ts ∧
    ∀ t' ∈ ts, .fetch .older ∉ t'.effects := by
  obtain ⟨s, t, ts, hs, haccepts, hpending, hsize, ht, hts, hnone⟩ :
      ∃ s t ts, steps {} [(.mount, overOne)] =
          .ok [⟨s, [.scrollToLatest, .fetch .older, .fetch .newer]⟩] ∧
        s.accepts (.settled .older (.failed .timeout)) = true ∧ s.gate .older = .pending ∧
        s.prevSize = overOne.graph.size ∧
        step s (.settled .older (.failed .timeout)) overOne = .ok t ∧
        steps t.state [(.update, overOne), (.settled .newer (.failed .timeout), overOne),
          (.focus true, overOne), (.tick, overOne)] = .ok ts ∧
        (comesUpon t.state ts [(.update, overOne), (.settled .newer (.failed .timeout), overOne),
          (.focus true, overOne), (.tick, overOne)]).any
            (fun x => x.1.asksAgain .older x.2.2 x.2.1) = false :=
    ⟨_, _, _, rfl, rfl, rfl, rfl, rfl, rfl, rfl⟩
  obtain ⟨-, hagain⟩ := asks_again_iff haccepts hpending hsize ht (by simp [Event.leaves]) hts
  refine ⟨s, t, ts, hs, ht, hts, ?_⟩
  intro t' ht' hfetch
  obtain ⟨x, hx, hasks⟩ := hagain.1 ⟨t', ht', hfetch⟩
  exact List.any_eq_false.1 hnone x hx hasks

/-- A page toward newer messages makes the window repeat a failed request for older ones, while
nothing has been loaded and the reader has done nothing. -/
theorem exists_asks_again : ∃ s t u, steps {} [(.mount, overOne)] =
      .ok [⟨s, [.scrollToLatest, .fetch .older, .fetch .newer]⟩] ∧
    s.gate .older = .pending ∧ s.prevSize = overOne.graph.size ∧
    step s (.settled .older (.failed .timeout)) overOne = .ok t ∧
    step t.state (.settled .newer (.loaded .exhausted)) overOne = .ok u ∧
    .fetch .older ∈ u.effects := by
  refine ⟨_, _, _, rfl, rfl, rfl, rfl, rfl, ?_⟩
  decide

end Scrollback
