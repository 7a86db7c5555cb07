import Mathlib.Data.List.Induction
import Scrollback.Proofs.Window.Dismissal
/-!
# The clock of a reader's activity

A window takes its reader to be looking from some activity on until enough time has passed, or until
the reader turns away. Every transition reads or sets this clock at one place: an activity of the
reader sets it, a few events stop it, and all others leave it alone. So the time that the window
remembers is the time of the last activity in its whole history, and whatever arrives by itself
neither wakes an idle window nor keeps it awake.

## Main definitions

* `Clock`, `WindowState.clock` — what a window knows of its reader's activity.
* `WindowState.rouses`, `WindowState.lulls` — the event is an activity of the reader, or ends one.
* `Event.isQuiet` — the event tells nothing of the reader's presence.
* `Moment.isActivity` — an activity in a run.

## Main statements

* `step_clock` — what a transition does to the clock.
* `Leads.exists_activity` — a window that is awake remembers the last activity of its run.
* `steps_activity` — the same for every moment of a run, with the time that a tick waits for, and
  what no quiet event can do.
-/

namespace Scrollback

/-- What a window knows of its reader's activity. -/
structure Clock where
  /-- The reader is not taken to be looking. -/
  idle : Bool
  /-- When the reader was last active. -/
  last : Option Nat
deriving DecidableEq

namespace WindowState

/-- The part of the state that tells of the reader's activity. -/
def clock (s : WindowState) : Clock := ⟨s.idle, s.lastActivity⟩

/-- The event is an activity of a reader who looks at the window. -/
def rouses (s : WindowState) (inp : Inputs) : Event → Bool
  | .mount => decide (s.scroll = .initializing) && inp.focused
  | .jumpToLatest | .jumpToUnread => inp.focused
  | .scroll offset => decide (offset ≤ inp.policy.idleThreshold) && inp.focused
  | .focus focused => focused
  | _ => false

/-- The event leaves the reader idle: one that scrolls far away or looks away, or time that has
passed since the last activity. -/
def lulls (s : WindowState) (inp : Inputs) : Event → Bool
  | .scroll offset => decide (inp.policy.idleThreshold < offset)
  | .focus focused => !focused
  | .tick => s.lastActivity.any fun t => decide (inp.policy.idleTimeout ≤ inp.now - t)
  | _ => false

/-- The clock after an event. -/
def clockAfter (s : WindowState) (inp : Inputs) (event : Event) : Clock :=
  if s.rouses inp event then ⟨false, some inp.now⟩
  else ⟨s.idle || s.lulls inp event, s.lastActivity⟩

variable {s : WindowState} {inp : Inputs} {event : Event}

/-- An event that neither is an activity nor ends one leaves the clock. -/
theorem clockAfter_eq_clock (hrouses : s.rouses inp event = false)
    (hlulls : s.lulls inp event = false) : s.clockAfter inp event = s.clock := by
  simp [clockAfter, hrouses, hlulls, clock]

/-- Input counts as activity while the window has the focus. -/
theorem clockAfter_of_rouses_eq (hrouses : s.rouses inp event = inp.focused)
    (hlulls : s.lulls inp event = false) :
    s.clockAfter inp event = if inp.focused then ⟨false, some inp.now⟩ else s.clock := by
  simp [clockAfter, hrouses, hlulls, clock]

@[simp] theorem clock_setGate (s : WindowState) (d : Direction) (g : Gate) :
    (s.setGate d g).clock = s.clock := by
  cases d <;> rfl

end WindowState

namespace Progress

variable {inp : Inputs} {p q : Progress} {d : Direction}

/-! ## Moves -/

@[simp] theorem clock_touch (inp : Inputs) (p : Progress) : (p.touch inp).state.clock =
    if inp.focused then ⟨false, some inp.now⟩ else p.state.clock := by
  rw [touch]
  split <;> rfl

@[simp] theorem clock_scrollToLatest (p : Progress) :
    p.scrollToLatest.state.clock = p.state.clock := rfl

@[simp] theorem clock_scrollToIndex (inp : Inputs) (i : MessageIndex) (p : Progress) :
    (p.scrollToIndex inp i).state.clock = p.state.clock := by
  rw [scrollToIndex]
  split <;> rfl

@[simp] theorem clock_tryDismiss (inp : Inputs) (p : Progress) :
    (p.tryDismiss inp).state.clock = p.state.clock := by
  rw [tryDismiss]
  split
  · rfl
  · split <;> rfl

@[simp] theorem clock_dismissIfActive (inp : Inputs) (p : Progress) :
    (p.dismissIfActive inp).state.clock = p.state.clock := by
  rw [dismissIfActive]
  split
  · rfl
  · exact clock_tryDismiss inp p

@[simp] theorem clock_trackUnread (inp : Inputs) (p : Progress) :
    (p.trackUnread inp).state.clock = p.state.clock := by
  simp only [trackUnread, update]
  split
  · rfl
  · split <;> rfl

@[simp] theorem clock_recomputeUnread (inp : Inputs) (p : Progress) :
    (p.recomputeUnread inp).state.clock = p.state.clock := by
  rw [recomputeUnread]
  split <;> rfl

@[simp] theorem clock_noteSize (inp : Inputs) (p : Progress) :
    (p.noteSize inp).state.clock = p.state.clock := by
  rw [noteSize, clock_recomputeUnread]
  rfl

@[simp] theorem clock_follow (p : Progress) : p.follow.state.clock = p.state.clock := by
  rw [follow]
  split <;> rfl

@[simp] theorem clock_reachTarget (inp : Inputs) (p : Progress) :
    (p.reachTarget inp).state.clock = p.state.clock := by
  rw [reachTarget]
  split
  · rfl
  · split
    · rfl
    · split
      · exact clock_scrollToIndex inp _ _
      · rfl

@[simp] theorem clock_requestIfIdle (d : Direction) (p : Progress) :
    (p.requestIfIdle d).state.clock = p.state.clock := by
  rw [requestIfIdle]
  split
  · exact p.state.clock_setGate d .pending
  · rfl

theorem clock_checkEdges (h : p.checkEdges inp = .ok q) : q.state.clock = p.state.clock :=
  checkEdges_induction (P := fun r => r.state.clock = p.state.clock) rfl
    (fun d r hr => (clock_requestIfIdle d r).trans hr) h

/-! ## Events -/

theorem clock_mount (h : p.mount inp = .ok q) :
    q.state.clock = p.state.clockAfter inp .mount := by
  rw [mount] at h
  split at h
  · next hscroll =>
    cases h
    rw [WindowState.clockAfter_eq_clock (by simp [WindowState.rouses, hscroll]) rfl]
  · next hscroll =>
    have hrouses : p.state.rouses inp .mount = inp.focused := by
      simp [WindowState.rouses, Decidable.not_not.1 hscroll]
    rw [clock_checkEdges h, clock_touch, WindowState.clockAfter_of_rouses_eq hrouses rfl]
    -- the place that mounting goes to does not bear on the clock
    congr 1
    simp only [update]
    split
    · exact clock_scrollToIndex inp _ _
    · split
      · exact clock_scrollToIndex inp _ _
      · rfl

theorem clock_refresh (h : p.refresh inp = .ok q) : q.state.clock = p.state.clock := by
  rw [refresh_eq] at h
  split at h
  · cases h
    simp
  · rw [clock_checkEdges h]
    simp

theorem clock_scrolled {offset : Nat} (h : p.scrolled inp offset = .ok q) :
    q.state.clock = p.state.clockAfter inp (.scroll offset) := by
  rw [scrolled] at h
  rw [clock_checkEdges h, clock_tryDismiss]
  by_cases hfar : inp.policy.idleThreshold < offset
  · simp [hfar, update, WindowState.clock, WindowState.clockAfter, WindowState.rouses,
      WindowState.lulls, Nat.not_le.2 hfar]
  · have hnear := Nat.not_lt.1 hfar
    by_cases hfocused : inp.focused = true
    · simp [hfar, hfocused, touch, markActive, update, WindowState.clock, WindowState.clockAfter,
        WindowState.rouses, hnear]
    · simp [hfar, hfocused, touch, update, WindowState.clock, WindowState.clockAfter,
        WindowState.rouses, WindowState.lulls]

theorem clock_settled {result : FetchResult} (h : p.settled inp d result = .ok q) :
    q.state.clock = p.state.clock := by
  unfold settled at h
  split at h
  · cases h
    rfl
  · cases result with
    | failed e =>
      cases h
      exact p.state.clock_setGate d .idle
    | loaded outcome =>
      rw [clock_checkEdges h, clock_reachTarget]
      split
      · rw [clock_recomputeUnread]
        exact p.state.clock_setGate d _
      · exact p.state.clock_setGate d _

theorem clock_focusChanged (inp : Inputs) (focused : Bool) (p : Progress) :
    (p.focusChanged inp focused).state.clock = p.state.clockAfter inp (.focus focused) := by
  rw [focusChanged]
  cases focused with
  | true =>
    rw [if_pos rfl, clock_tryDismiss]
    rfl
  | false => simp [update, WindowState.clock, WindowState.clockAfter, WindowState.rouses,
      WindowState.lulls]

theorem clock_ticked (inp : Inputs) (p : Progress) :
    (p.ticked inp).state.clock = p.state.clockAfter inp .tick := by
  have hticked : p.ticked inp = if p.state.idle then p
      else if p.state.lulls inp .tick then p.update fun s => { s with idle := true } else p := rfl
  rw [hticked, WindowState.clockAfter]
  cases hidle : p.state.idle with
  | true => simp [hidle, WindowState.clock, WindowState.rouses]
  | false =>
    cases hlulls : p.state.lulls inp .tick with
    | true => simp [update, WindowState.clock, WindowState.rouses]
    | false => simp [hidle, WindowState.clock, WindowState.rouses]

theorem clock_jumpToLatest (h : p.jumpToLatest inp = .ok q) :
    q.state.clock = p.state.clockAfter inp .jumpToLatest := by
  rw [jumpToLatest] at h
  rw [clock_checkEdges h, clock_tryDismiss, clock_scrollToLatest,
    WindowState.clockAfter_of_rouses_eq rfl rfl]
  exact clock_touch inp p

theorem clock_jumpToUnread (h : p.jumpToUnread inp = .ok q) :
    q.state.clock = p.state.clockAfter inp .jumpToUnread := by
  rw [WindowState.clockAfter_of_rouses_eq rfl rfl, ← clock_touch]
  rw [jumpToUnread] at h
  split at h
  · rw [clock_checkEdges h, clock_scrollToIndex]
  · cases h
    rfl

theorem clock_reset (h : p.reset inp = .ok q) : q.state.clock = p.state.clock := by
  rw [reset] at h
  rw [clock_checkEdges h, clock_scrollToLatest]
  rfl

/-- **What an event does to the clock**: an activity sets it, and all else stops it or leaves it. -/
theorem clock_handle {event : Event} (h : p.handle inp event = .ok q) :
    q.state.clock = p.state.clockAfter inp event := by
  have left (hrouses : p.state.rouses inp event = false) (hlulls : p.state.lulls inp event = false)
      (hsame : q.state.clock = p.state.clock) : q.state.clock = p.state.clockAfter inp event :=
    hsame.trans (WindowState.clockAfter_eq_clock hrouses hlulls).symm
  cases event with
  | mount => exact clock_mount h
  | update => exact left rfl rfl (clock_refresh h)
  | scroll offset => exact clock_scrolled h
  | settled d result => exact left rfl rfl (clock_settled h)
  | focus focused => cases h; exact clock_focusChanged inp focused p
  | tick => cases h; exact clock_ticked inp p
  | jumpToLatest => exact clock_jumpToLatest h
  | jumpToUnread => exact clock_jumpToUnread h
  | retry d => cases h; exact left rfl rfl (clock_requestIfIdle d p)
  | reset => exact left rfl rfl (clock_reset h)
  | teardown => cases h; exact left rfl rfl rfl

end Progress

/-! ## Transitions -/

/-- The event tells nothing of the reader's presence: messages or the count of unread ones changed,
a page has come, or one is asked for again. -/
def Event.isQuiet : Event → Bool
  | .update | .settled _ _ | .retry _ | .reset => true
  | _ => false

variable {s u : WindowState} {event : Event} {inp : Inputs} {t : Transition}

/-- **What a transition does to the clock.** -/
theorem step_clock (h : step s event inp = .ok t) :
    t.state.clock = if s.accepts event then s.clockAfter inp event else s.clock := by
  cases haccepts : s.accepts event with
  | false =>
    rw [step_of_not_accepts haccepts h]
    rfl
  | true =>
    rw [step, if_pos haccepts] at h
    obtain ⟨q, hq, rfl⟩ := Checked.map_eq_ok.1 h
    exact Progress.clock_handle hq

/-- What tells nothing of the reader's presence leaves the clock. -/
theorem step_clock_of_isQuiet (hquiet : event.isQuiet = true) (h : step s event inp = .ok t) :
    t.state.clock = s.clock := by
  rw [step_clock h]
  split
  · cases event <;> first | exact WindowState.clockAfter_eq_clock rfl rfl | cases hquiet
  · rfl

/-- A tick leaves the reader awake only for as long as the last activity is recent. -/
theorem sub_lt_of_step_tick {a : Nat} (haccepts : s.accepts .tick = true)
    (h : step s .tick inp = .ok t) (hawake : t.state.idle = false)
    (hlast : t.state.lastActivity = some a) : inp.now - a < inp.policy.idleTimeout := by
  have hclock := step_clock h
  rw [if_pos haccepts] at hclock
  have hidle : t.state.idle = (s.idle || s.lulls inp .tick) := congrArg Clock.idle hclock
  have hsame : t.state.lastActivity = s.lastActivity := congrArg Clock.last hclock
  rw [hawake] at hidle
  rw [hsame] at hlast
  obtain ⟨-, hlulls⟩ := Bool.or_eq_false_iff.1 hidle.symm
  simpa [WindowState.lulls, hlast] using hlulls

/-- Nothing is dismissed behind the back of an idle reader, and what is unread stays open. -/
theorem step_of_isQuiet_of_idle (hquiet : event.isQuiet = true) (hidle : s.idle = true)
    (h : step s event inp = .ok t) :
    .dismissUnread ∉ t.effects ∧
      (0 < inp.unread →
        (s.isMounted = true ∧ event.opens s inp = true) ∨ s.unreadDismissed = false →
          t.state.unreadDismissed = false) := by
  have hspares : .dismissUnread ∉ t.effects := by
    intro hmem
    obtain ⟨hattends, -⟩ := step_dismisses_once h hmem
    cases event with
    | update => simp [WindowState.attends, hidle] at hattends
    | settled | retry | reset => cases hattends
    | _ => cases hquiet
  refine ⟨hspares, fun hunread hopen => ?_⟩
  rw [← Bool.not_eq_true]
  intro hclosed
  rcases step_dismissed h hclosed with hmem | ⟨-, hnone⟩ | ⟨hbefore, hnew⟩
  · exact hspares hmem
  · omega
  · rcases hopen with ⟨hmounted, hopens⟩ | hopen
    · rw [hnew (WindowState.accepts_of_isMounted hmounted event)] at hopens
      cases hopens
    · rw [hopen] at hbefore
      cases hbefore

/-- A window that is still awake, though the reader has not been active, was awake before. -/
theorem step_clock_of_awake (h : step s event inp = .ok t)
    (hactive : (s.accepts event && s.rouses inp event) = false) (hawake : t.state.idle = false) :
    t.state.clock = s.clock := by
  have hclock := step_clock h
  cases haccepts : s.accepts event with
  | false => simpa [haccepts] using hclock
  | true =>
    have hrouses : s.rouses inp event = false := by simpa [haccepts] using hactive
    rw [haccepts, if_pos rfl] at hclock
    refine hclock.trans (WindowState.clockAfter_eq_clock hrouses ?_)
    have hidle : t.state.idle = (s.clockAfter inp event).idle := congrArg Clock.idle hclock
    rw [hawake, WindowState.clockAfter, hrouses, if_neg Bool.false_ne_true] at hidle
    exact (Bool.or_eq_false_iff.1 hidle.symm).2

/-! ## Runs -/

/-- The reader is active at this moment of a run. -/
def Moment.isActivity (m : Moment) : Bool :=
  m.before.accepts m.event && m.before.rouses m.inputs m.event

variable {ms : List Moment} {events : List (Event × Inputs)} {ts : List Transition}

/-- An activity wakes the window. -/
theorem step_clock_of_isActivity {m : Moment} (h : step m.before m.event m.inputs = .ok m.after)
    (hactive : m.isActivity = true) : m.after.state.clock = ⟨false, some m.inputs.now⟩ := by
  obtain ⟨haccepts, hrouses⟩ := Bool.and_eq_true_iff.1 hactive
  rw [step_clock h, if_pos haccepts, WindowState.clockAfter, if_pos hrouses]

/-- **An awake window remembers the last activity.** If a run that begins with an idle window ends
with one that is not, the reader has been active, and the window tells when that was for the last
time. -/
theorem Leads.exists_activity (h : Leads s ms u) (hs : s.idle = true) (hu : u.idle = false) :
    ∃ xs k ys, ms = xs ++ k :: ys ∧ k.isActivity = true ∧ (∀ j ∈ ys, j.isActivity = false) ∧
      u.lastActivity = some k.inputs.now := by
  -- from the end: the last moment either is the activity or leaves the clock
  induction ms using List.reverseRecOn generalizing u with
  | nil =>
    cases h
    rw [hs] at hu
    cases hu
  | append_singleton ms m ih =>
    obtain ⟨hupto, hstep, rfl⟩ := h.of_concat
    cases hactive : m.isActivity with
    | true =>
      refine ⟨ms, m, [], rfl, hactive, by simp, ?_⟩
      exact congrArg Clock.last (step_clock_of_isActivity hstep hactive)
    | false =>
      have hclock := step_clock_of_awake hstep hactive hu
      have hidle : m.after.state.idle = m.before.idle := congrArg Clock.idle hclock
      have hsame : m.after.state.lastActivity = m.before.lastActivity := congrArg Clock.last hclock
      obtain ⟨xs, k, ys, rfl, hk, hys, hremembers⟩ := ih hupto (hidle.symm.trans hu)
      refine ⟨xs, k, ys ++ [m], by simp, hk, ?_, hsame.trans hremembers⟩
      intro j hj
      rcases List.mem_append.1 hj with hj | hj
      · exact hys j hj
      · rwa [List.mem_singleton.1 hj]

/-- What tells nothing of the reader's presence leaves the clock, however much of it there is. -/
theorem Leads.clock (h : Leads s ms u) (hquiet : ∀ m ∈ ms, m.event.isQuiet = true) :
    ∀ m ∈ ms, m.before.clock = s.clock ∧ m.after.state.clock = s.clock := by
  induction h with
  | nil => simp
  | @cons s u m ms hbefore hstep _ ih =>
    subst hbefore
    obtain ⟨hm, hms⟩ := List.forall_mem_cons.1 hquiet
    have hafter := step_clock_of_isQuiet hm hstep
    rw [hafter] at ih
    exact List.forall_mem_cons.2 ⟨⟨rfl, hafter⟩, ih hms⟩

/-- Time does not go back from one moment of a run to another. -/
theorem now_le_of_mem_moments {m k : Moment} {past future : List Moment}
    (h : steps s events = .ok ts) (hnow : (events.map fun x => x.2.now).Pairwise (· ≤ ·))
    (hms : moments s events ts = past ++ m :: future) (hk : k ∈ past ++ [m]) :
    k.inputs.now ≤ m.inputs.now := by
  have htimes : (moments s events ts).Pairwise (·.inputs.now ≤ ·.inputs.now) := by
    rwa [← map_event_moments h, List.map_map, List.pairwise_map] at hnow
  rw [hms] at htimes
  rcases List.mem_append.1 hk with hpast | hm
  · exact (List.pairwise_append.1 htimes).2.2 k hpast m (List.mem_cons_self ..)
  · obtain rfl := List.mem_singleton.1 hm
    exact Nat.le_refl _

/-- **The clock of a reader's activity.** In a run of a window, whatever it is told, with time that
never goes back: each activity wakes the window; and as long as the window takes its reader to be
looking, it remembers the time of the reader's last activity, which was to have the window mounted,
to jump or to scroll near the newest message while it had the focus, or to give it the focus; and
after a tick that activity has been within the idle timeout. Changes, pages, repeated requests and
exchanged messages alone neither wake the window nor keep it awake: an idle window stays idle,
dismisses nothing and keeps open what is unread. -/
theorem steps_activity (h : steps {} events = .ok ts)
    (hnow : (events.map fun x => x.2.now).Pairwise (· ≤ ·)) :
    (∀ m ∈ moments {} events ts, m.isActivity = true →
      m.after.state.idle = false ∧ m.after.state.lastActivity = some m.inputs.now) ∧
    (∀ past m future, moments {} events ts = past ++ m :: future → m.after.state.idle = false →
      ∃ xs k ys, past ++ [m] = xs ++ k :: ys ∧ k.isActivity = true ∧
        (∀ j ∈ ys, j.isActivity = false) ∧ m.after.state.lastActivity = some k.inputs.now ∧
        k.inputs.now ≤ m.inputs.now ∧
        (m.event = .tick → m.before.accepts .tick = true →
          m.inputs.now < k.inputs.now + m.inputs.policy.idleTimeout)) ∧
    ∀ past m ms future, moments {} events ts = past ++ (m :: ms ++ future) →
      (∀ k ∈ m :: ms, k.event.isQuiet = true) → ∀ k ∈ m :: ms,
        k.after.state.idle = m.before.idle ∧
        k.after.state.lastActivity = m.before.lastActivity ∧
        (m.before.idle = true → .dismissUnread ∉ k.after.effects ∧
          (0 < k.inputs.unread → k.opensEpisode = true ∨ k.before.unreadDismissed = false →
            k.after.state.unreadDismissed = false)) := by
  obtain ⟨u, hleads⟩ := leads_moments h
  refine ⟨fun m hm hactive => ?_, fun past m future hms hawake => ?_,
    fun past m ms future hms hquiet k hk => ?_⟩
  · have hclock := step_clock_of_isActivity (hleads.step_of_mem hm) hactive
    exact ⟨congrArg Clock.idle hclock, congrArg Clock.last hclock⟩
  · have hparts : past ++ m :: future = (past ++ [m]) ++ future := by simp
    have hupto : Leads {} (past ++ [m]) m.after.state := by
      rw [hms, hparts] at hleads
      obtain ⟨v, hupto, -⟩ := hleads.split
      exact hupto.eq_of_concat ▸ hupto
    obtain ⟨xs, k, ys, heq, hk, hys, hlast⟩ := hupto.exists_activity rfl hawake
    have hmem : k ∈ past ++ [m] := heq ▸ List.mem_append_right xs (List.mem_cons_self ..)
    have hle := now_le_of_mem_moments h hnow hms hmem
    refine ⟨xs, k, ys, heq, hk, hys, hlast, hle, fun htick haccepts => ?_⟩
    obtain ⟨-, hstep, -⟩ := hupto.of_concat
    rw [htick] at hstep
    have hrecent := sub_lt_of_step_tick haccepts hstep hawake hlast
    omega
  · rw [hms] at hleads
    obtain ⟨v, -, hrest⟩ := hleads.split
    obtain ⟨w, hstretch, -⟩ := hrest.split
    have hclocks := hstretch.clock hquiet
    obtain ⟨hbefore, hafter⟩ := hclocks k hk
    have hsame : k.after.state.clock = m.before.clock :=
      hafter.trans (hclocks m (List.mem_cons_self ..)).1.symm
    refine ⟨congrArg Clock.idle hsame, congrArg Clock.last hsame, fun hidle => ?_⟩
    have hkidle : k.before.idle = m.before.idle :=
      congrArg Clock.idle (hbefore.trans (hclocks m (List.mem_cons_self ..)).1.symm)
    simpa [Moment.opensEpisode] using
      step_of_isQuiet_of_idle (hquiet k hk) (hkidle.trans hidle) (hstretch.step_of_mem hk)

/-- A reader looks at one message for a minute, and another one arrives afterwards. -/
def oneMinute : List (Event × Inputs) :=
  [(.mount, overOne), (.tick, { overOne with now := 59999 }),
    (.tick, { overOne with now := 60000 }),
    (.update, { overOne with
      graph := overOne.graph.insert ⟨10, by decide⟩ .deleted, unread := 1, now := 70000 })]

/-- Just before the minute is over the reader counts as looking, and the message that arrives
afterwards stays unread. -/
theorem steps_activity_oneMinute : ∃ ts a b c d, steps {} oneMinute = .ok ts ∧
    moments {} oneMinute ts = [a, b, c, d] ∧
    ts.map (·.state.clock) = [⟨false, some 0⟩, ⟨false, some 0⟩, ⟨true, some 0⟩, ⟨true, some 0⟩] ∧
    (∃ k ∈ [a, b], k.isActivity = true ∧ 59999 < k.inputs.now + 60000) ∧
    .dismissUnread ∉ d.after.effects ∧ d.after.state.unreadDismissed = false := by
  obtain ⟨ts, a, b, c, d, hts, hms, hclocks, hb, htick, hnow, hlimit, hd, hupdate, hunread, hopen⟩ :
      ∃ ts a b c d, steps {} oneMinute = .ok ts ∧ moments {} oneMinute ts = [a, b, c, d] ∧
        ts.map (·.state.clock) =
          [⟨false, some 0⟩, ⟨false, some 0⟩, ⟨true, some 0⟩, ⟨true, some 0⟩] ∧
        b.after.state.idle = false ∧ (b.event = .tick ∧ b.before.accepts .tick = true) ∧
        b.inputs.now = 59999 ∧ b.inputs.policy.idleTimeout = 60000 ∧ d.before.idle = true ∧
        d.event.isQuiet = true ∧ d.inputs.unread = 1 ∧ d.before.unreadDismissed = false :=
    ⟨_, _, _, _, _, rfl, rfl, rfl, rfl, ⟨rfl, rfl⟩, rfl, rfl, rfl, rfl, rfl, rfl⟩
  obtain ⟨-, hawake, hquiet⟩ := steps_activity hts (by decide)
  obtain ⟨xs, k, ys, heq, hk, -, -, -, hrecent⟩ := hawake [a] b [c, d] hms hb
  obtain ⟨-, -, hidle⟩ := hquiet [a, b, c] d [] [] hms (by simpa using hupdate) d
    (List.mem_singleton_self d)
  obtain ⟨hspares, hstays⟩ := hidle hd
  have hmem : k ∈ [a] ++ [b] := heq ▸ List.mem_append_right xs (List.mem_cons_self ..)
  refine ⟨ts, a, b, c, d, hts, hms, hclocks, ⟨k, hmem, hk, ?_⟩, hspares, ?_⟩
  · rw [← hnow, ← hlimit]
    exact hrecent htick.1 htick.2
  · exact hstays (by rw [hunread]; exact Nat.one_pos) (.inr hopen)

end Scrollback
