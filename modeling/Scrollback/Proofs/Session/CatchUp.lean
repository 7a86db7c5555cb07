import Scrollback.Proofs.Session.Tracking
/-!
# Catching up with the history

A session may be opened anywhere in the history. The loaded part comes to the end of the history by
a jump to the newest message or by the answer to a page request, and from then on new messages join
it.

## Main definitions

* `Session.origin` — the session as it was opened.
* `Session.catchesUp` — the move brings the loaded part to the end of the history.

## Main statements

* `Session.move_reachesEnd_iff` — one move comes to the end if it catches up.
* `Session.Run.reachesEnd_iff` — a run is at the end from the first time on that it caught up.
* `Session.Run.frame` — a session keeps what it was opened with.
-/

namespace Scrollback.Session

variable {s s' x y a b : Session} {m : Move} {e : Event} {es more : List Event}
  {h : List (Session × Move)}

/-- The session as it was opened. -/
def origin : List (Session × Move) → Session → Session
  | [], s => s
  | (p, _) :: h, _ => origin h p

/-- The move brings the loaded part to the end of the history: a jump of a window that takes notice,
or the answer to a page request. -/
def catchesUp (s : Session) (m : Move) : Bool :=
  m.jumps && s.window.state.accepts .jumpToLatest && decide (0 < s.feed.config.pageSize) ||
    match s.answer? m with
    | some (d, .ok r) => s.feed.catchesUp d r
    | _ => false

/-- By itself a move brings the loaded part to the end with an answer at most. -/
theorem Change.reachesEnd_iff (hspans : ∃ a b, s.feed.Spans a b) (hc : Change s m a es) :
    a.feed.ReachesEnd ↔ s.feed.ReachesEnd ∨
      ∃ d r, s.answer? m = some (d, .ok r) ∧ s.feed.catchesUp d r = true := by
  have hnone : s.answer? m = none →
      ¬ ∃ d r, s.answer? m = some (d, .ok r) ∧ s.feed.catchesUp d r = true := by
    rintro hanswer ⟨d, r, hr, -⟩
    rw [hanswer] at hr
    cases hr
  cases hc with
  | nothing es hanswer _ hfeed => simp [hfeed, hnone hanswer]
  | answers d hanswer _ hfeed =>
    rw [hfeed, Feed.reachesEnd_settle hspans d, hanswer]
    simp
  | acknowledges sent hanswer _ hfeed =>
    rw [hfeed, Feed.reachesEnd_acknowledge]
    simp [hnone hanswer]
  | announces msg i hanswer _ happend =>
    rw [Feed.reachesEnd_append hspans happend]
    simp [hnone hanswer]
  | adds es msg i grown hanswer _ happend hr hl =>
    rw [Feed.reachesEnd_congr hr hl, Feed.reachesEnd_append hspans happend]
    simp [hnone hanswer]
  | hears i hanswer _ hfeed => simp [hfeed, hnone hanswer]

theorem catchesUp_iff : s.catchesUp m = true ↔
    (m.jumps = true ∧ s.window.state.accepts .jumpToLatest = true ∧ 0 < s.feed.config.pageSize) ∨
      ∃ d r, s.answer? m = some (d, .ok r) ∧ s.feed.catchesUp d r = true := by
  rw [catchesUp, Bool.or_eq_true, Bool.and_eq_true, Bool.and_eq_true, decide_eq_true_eq, and_assoc]
  refine or_congr_right ?_
  split
  · next d r hanswer => simp [hanswer]
  · next hother => simpa using fun d r hanswer => (hother d r hanswer).elim

theorem answer?_of_jumps (hm : m.jumps = true) : s.answer? m = none := by
  cases m with
  | input i => rfl
  | _ => cases hm

/-- A jump that the window takes notice of brings the loaded part to the end. -/
theorem begun_reachesEnd_iff (hspans : ∃ a b, s.feed.Spans a b) :
    (s.begun .jumpToLatest).feed.ReachesEnd ↔ s.feed.ReachesEnd ∨
      (s.window.state.accepts .jumpToLatest = true ∧ 0 < s.feed.config.pageSize) := by
  cases haccepts : s.window.state.accepts .jumpToLatest with
  | true =>
    rw [feed_begun haccepts, if_pos rfl, Feed.reachesEnd_jumpToLatest hspans]
    simp
  | false =>
    rw [begun_of_not_accepts haccepts]
    simp

/-- One move brings the loaded part to the end of the history exactly if it catches up. -/
theorem move_reachesEnd_iff (hspans : ∃ a b, s.feed.Spans a b) (hm : s.move m = some s') :
    s'.feed.ReachesEnd ↔ s.feed.ReachesEnd ∨ s.catchesUp m = true := by
  obtain ⟨a, es, b, htold, htell, rfl⟩ := exists_told hm
  obtain ⟨tasks, started, heq⟩ := b.exists_settleMove_eq m
  rw [heq, catchesUp_iff]
  rcases jumps_cases htold with ⟨hjumps, rfl, rfl⟩ | ⟨hjumps, hjump⟩
  · have hanswer : a.answer? m = none := answer?_of_jumps hjumps
    rw [tell_singleton] at htell
    rw [(dispatch_asks htell).feed, begun_reachesEnd_iff hspans]
    simp [hjumps, hanswer]
  · rw [tell_feed hjump htell, (told_change htold).reachesEnd_iff hspans]
    simp [hjumps]

/-- **The end of the history.** In every run, the loaded part reaches the end exactly if it did so
when the session was opened, or if some move has caught up since. -/
theorem Run.reachesEnd_iff (hrun : Run h s) :
    s.feed.ReachesEnd ↔ (origin h s).feed.ReachesEnd ∨ ∃ p ∈ h, p.1.catchesUp p.2 = true := by
  induction hrun with
  | opened ho => simp [origin]
  | move hrun hm ih =>
    rw [move_reachesEnd_iff hrun.tracks.exists_spans hm, ih, or_assoc, origin]
    simp [or_comm]

/-! ## What a session is opened with -/

theorem handle_window (hh : x.handle e = .ok (y, more)) :
    y.window.policy = x.window.policy ∧ y.window.target = x.window.target ∧
      y.window.focused = x.window.focused := by
  obtain ⟨t, -, hwindow, -⟩ := handle_transition hh
  rw [hwindow]
  exact ⟨rfl, rfl, rfl⟩

/-- No move changes the policy and the target of the window, nor the configuration of the feed. -/
theorem move_frame (hm : s.move m = some s') : s'.window.policy = s.window.policy ∧
    s'.window.target = s.window.target ∧ s'.feed.config = s.feed.config := by
  obtain ⟨a, es, b, htold, htell, rfl⟩ := exists_told hm
  obtain ⟨tasks, started, heq⟩ := b.exists_settleMove_eq m
  obtain ⟨_, _, hwindow⟩ := told_window htold
  have hb : b.window.policy = a.window.policy ∧ b.window.target = a.window.target ∧
      b.feed.config = a.feed.config := by
    refine tell_induction (P := fun _ x => x.window.policy = a.window.policy ∧
      x.window.target = a.window.target ∧ x.feed.config = a.feed.config) (fun _ hx => hx) ?_
        ⟨rfl, rfl, rfl⟩ htell
    rintro e queue x y more hh ⟨hpolicy, htarget, hconfig⟩
    obtain ⟨hpolicy', htarget', -⟩ := handle_window hh
    exact ⟨hpolicy'.trans hpolicy, htarget'.trans htarget,
      (handle_continues hh).config.trans hconfig⟩
  rw [hwindow, (told_change htold).grows.config] at hb
  rw [heq]
  exact hb

/-- **A session keeps what it was opened with.** -/
theorem Run.frame (hrun : Run h s) : s.window.policy = (origin h s).window.policy ∧
    s.window.target = (origin h s).window.target ∧
    s.feed.config = (origin h s).feed.config := by
  induction hrun with
  | opened _ => exact ⟨rfl, rfl, rfl⟩
  | move _ hm ih =>
    obtain ⟨hpolicy, htarget, hconfig⟩ := move_frame hm
    exact ⟨hpolicy.trans ih.1, htarget.trans ih.2.1, hconfig.trans ih.2.2⟩

/-! ## Runs from a given history -/

theorem origin_replay {h' : List (Session × Move)} {ms : List Move}
    (heq : replay h s ms = some (h', s')) : origin h' s' = origin h s := by
  induction ms generalizing h s with
  | nil =>
    cases heq
    rfl
  | cons m ms ih =>
    obtain ⟨s₁, -, hrest⟩ := Option.bind_eq_some_iff.1 heq
    have hlater := ih hrest
    exact hlater

/-- What given moves come to from the start on a given history is the end of a run. -/
theorem exists_run_of_history (o : Options) (remote : Graph) (target : Option MessageIndex)
    (now : Instant) (ms : List Move) (p : List (Session × Move) → Session → Bool)
    (hs : (((ofHistory o remote target now).toOption.bind fun s => replay [] s ms).any
      fun r => p r.1 r.2) = true) :
    ∃ h s, Run h s ∧ ofHistory o remote target now = .ok (origin h s) ∧ p h s = true := by
  cases hreplay : (ofHistory o remote target now).toOption.bind fun s => replay [] s ms with
  | none =>
    rw [hreplay] at hs
    cases hs
  | some r =>
    rw [hreplay] at hs
    obtain ⟨s₀, hopened, hreplay⟩ := Option.bind_eq_some_iff.1 hreplay
    have hopened := toOption_eq_some.1 hopened
    refine ⟨r.1, r.2, run_replay (.opened (opened_ofHistory hopened)) hreplay, ?_, hs⟩
    rw [origin_replay hreplay]
    exact hopened

end Scrollback.Session
