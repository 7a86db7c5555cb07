import Scrollback.Proofs.Session.Run
/-!
# Page requests under way

The window keeps a gate for each direction and asks for a page through an idle gate only. So it
waits for one page at most in each direction. The requests themselves are not called back when the
loaded part is exchanged: the gates open, and the answers to the old requests still come in. Here
the requests under way are accounted for, over all runs.

## Main definitions

* `Session.underway` — how many requests of a direction are under way.
* `Session.awaited` — how many of them the window waits for.
* `Session.abandoned`, `Session.ignored`, `Session.lost` — what becomes of the others, as the
  history tells.

## Main statements

* `Session.underway_account` — the account, and the bound that it gives.
* `Session.pending_underway` — the window does not wait in vain, unless a request was lost.
-/

namespace Scrollback.Session

variable {s s' s₁ : Session} {m : Move} {d : Direction} {h : List (Session × Move)} {x y : Nat}

/-! ## The account -/

/-- How many page requests of a direction were begun and are not settled yet, or settled and not
heard yet. -/
def underway (s : Session) (d : Direction) : Nat :=
  s.pageTasks d + s.results.countP fun r => decide (r.1 = d)

/-- How many pages of a direction the window waits for. -/
def awaited (s : Session) (d : Direction) : Nat := if s.gate d = .pending then 1 else 0

/-- The move exchanges the loaded part while the window waits for a page of a direction. -/
def abandons (s : Session) (m : Move) (d : Direction) : Bool :=
  s.replacedBy m && decide (s.gate d = .pending)

/-- The window waits for a page of a direction and takes notice of what becomes of it. -/
def heeds (s : Session) (d : Direction) (r : FetchResult) : Bool :=
  s.window.state.accepts (.settled d r) && decide (s.gate d = .pending)

/-- The window, when it is told of a result, waits for none of that direction, or takes no notice
any more. -/
def passesOver (s : Session) (d : Direction) (r : FetchResult) : Bool :=
  match s.beforeSettling d r with
  | .ok s₁ => !s₁.heeds d r
  | .error _ => false

/-- The move has a result of a direction heard, and the window passes over it. -/
def ignores (s : Session) (m : Move) (d : Direction) : Bool :=
  match m, s.results with
  | .hearResult, (e, r) :: results =>
    decide (e = d) && ({ s with results } : Session).passesOver e r
  | _, _ => false

/-- The move ends a page request of a direction without an answer. -/
def loses (s : Session) (m : Move) (d : Direction) : Bool :=
  match s.answer? m with
  | some (e, .error _) => decide (e = d)
  | _ => false

/-- How often the loaded part was exchanged while the window waited for a page of a direction. -/
def abandoned (h : List (Session × Move)) (d : Direction) : Nat :=
  h.countP fun p => p.1.abandons p.2 d

/-- How many results of a direction the window passed over. -/
def ignored (h : List (Session × Move)) (d : Direction) : Nat :=
  h.countP fun p => p.1.ignores p.2 d

/-- How many page requests of a direction ended without an answer. -/
def lost (h : List (Session × Move)) (d : Direction) : Nat :=
  h.countP fun p => p.1.loses p.2 d

theorem abandoned_cons (s : Session) (m : Move) (h : List (Session × Move)) (d : Direction) :
    abandoned ((s, m) :: h) d = abandoned h d + if s.abandons m d then 1 else 0 := by
  rw [abandoned, List.countP_cons, abandoned]

theorem ignored_cons (s : Session) (m : Move) (h : List (Session × Move)) (d : Direction) :
    ignored ((s, m) :: h) d = ignored h d + if s.ignores m d then 1 else 0 := by
  rw [ignored, List.countP_cons, ignored]

theorem lost_cons (s : Session) (m : Move) (h : List (Session × Move)) (d : Direction) :
    lost ((s, m) :: h) d = lost h d + if s.loses m d then 1 else 0 := by
  rw [lost, List.countP_cons, lost]

/-- What is under way and `x` more make up what is awaited and `y` more; and a window that waits is
on screen. -/
structure Balanced (s : Session) (d : Direction) (x y : Nat) : Prop where
  count : s.underway d + x = s.awaited d + y
  scroll : s.gate d = .pending → s.window.state.scroll ≠ .initializing

theorem awaited_of_pending (hg : s.gate d = .pending) : s.awaited d = 1 := if_pos hg

theorem awaited_of_ne (hg : s.gate d ≠ .pending) : s.awaited d = 0 := if_neg hg

/-! ## What a step preserves -/

/-- Moves that pass over the requests keep the account. -/
theorem Balanced.passes (hb : Balanced s d x y) (hp : Passes s s') : Balanced s' d x y := by
  have hcount := hb.count
  rw [underway] at hcount
  rcases hp.gate d with hk | hc
  · refine ⟨?_, fun hpending => hp.scroll (hb.scroll (hk.gate ▸ hpending))⟩
    rw [underway, awaited, hp.results, hk.pageTasks, hk.gate, hcount, awaited]
  · refine ⟨?_, fun _ => hc.scroll⟩
    have hidle : s.gate d ≠ .pending := by
      rw [hc.was_idle]
      exact Gate.noConfusion
    rw [awaited_of_ne hidle] at hcount
    rw [underway, hp.results, hc.pageTasks, awaited_of_pending hc.pending]
    omega

/-- An exchange of the loaded part opens the gates, and takes back no request. -/
theorem Balanced.replaces (hb : Balanced s d x y) (hr : s.replaces .jumpToLatest = true) :
    Balanced (s.begun .jumpToLatest) d x (y + s.awaited d) := by
  have hidle : (s.begun .jumpToLatest).gate d ≠ .pending := by
    rw [gate, (state_begun_of_replaces hr).1]
    cases d <;> exact Gate.noConfusion
  have hcount := hb.count
  rw [underway] at hcount
  refine ⟨?_, fun hpending => absurd hpending hidle⟩
  rw [underway, results_begun, pageTasks_begun, hcount, awaited_of_ne hidle]
  omega

/-- An answer that comes in is under way as its request was; one that is lost is not. -/
theorem Answers.underway_eq {e : Direction} (ha : Answers e s s')
    (hanswer : s.answer? m = some (e, (s.feed.settle e).2)) (d : Direction) :
    s.underway d = s'.underway d + if s.loses m d then 1 else 0 := by
  rw [underway, underway, loses, hanswer, ha.pageTasks d, ha.results, List.countP_append]
  simp only [eq_comm (a := d)]
  cases (s.feed.settle e).2 with
  | ok r =>
    have hone : (((Except.ok r : Checked FetchResult).toOption.map (e, ·)).toList.countP
        fun r => decide (r.1 = d)) = if e = d then 1 else 0 := by
      simp [Except.toOption, List.countP_cons]
    rw [hone, if_neg Bool.false_ne_true]
    omega
  | error fault =>
    have hnone : (((Except.error fault : Checked FetchResult).toOption.map (e, ·)).toList.countP
        fun r => decide (r.1 = d)) = 0 := rfl
    rw [hnone]
    simp only [decide_eq_true_eq]
    omega

theorem Balanced.answers {e : Direction} (hb : Balanced s d x y) (ha : Answers e s s')
    (hanswer : s.answer? m = some (e, (s.feed.settle e).2)) :
    Balanced s' d (x + if s.loses m d then 1 else 0) y := by
  have hcount := hb.count
  rw [ha.underway_eq hanswer d] at hcount
  have hgate : s'.gate d = s.gate d := congrArg (fun w => w.state.gate d) ha.window
  refine ⟨?_, fun hpending => ?_⟩
  · rw [awaited, hgate, ← awaited]
    omega
  · rw [congrArg (fun w => w.state.scroll) ha.window]
    exact hb.scroll (hgate ▸ hpending)

/-- A result that was taken from the queue is in hand. -/
theorem Balanced.taken {e : Direction} {r : FetchResult}
    {results : List (Direction × FetchResult)} (hb : Balanced s d x y)
    (hresults : s.results = (e, r) :: results) :
    Balanced { s with results } d (x + if e = d then 1 else 0) y := by
  have hcount := hb.count
  rw [underway, hresults, List.countP_cons] at hcount
  simp only [decide_eq_true_eq] at hcount
  refine ⟨?_, hb.scroll⟩
  change s.pageTasks d + results.countP (fun r => decide (r.1 = d)) + _ = s.awaited d + y
  omega

/-- The gate that a settled request leaves is not pending. -/
theorem gate_ne_pending (r : FetchResult) : r.gate ≠ .pending := by
  cases r with
  | failed e => exact Gate.noConfusion
  | loaded o => cases o <;> exact Gate.noConfusion

theorem heeds_iff {r : FetchResult} : s.heeds d r = true ↔
    s.window.state.accepts (.settled d r) = true ∧ s.gate d = .pending := by
  rw [heeds, Bool.and_eq_true, decide_eq_true_eq]

theorem gate_begun_settled {e : Direction} {r : FetchResult} (d : Direction) :
    (s.begun (.settled e r)).gate d =
      if e = d ∧ s.heeds e r = true then r.gate else s.gate d := by
  simp only [heeds_iff]
  cases haccepts : s.window.state.accepts (.settled e r) with
  | false =>
    rw [begun_of_not_accepts haccepts, if_neg]
    rintro ⟨-, h, -⟩
    cases h
  | true =>
    have hstate := state_begun haccepts (replaces_of_ne Event.noConfusion)
    rw [gate, hstate]
    by_cases hpending : s.window.state.gate e = .pending
    · rw [WindowState.begun_settled hpending]
      by_cases hed : e = d
      · subst hed
        rw [if_pos ⟨rfl, rfl, hpending⟩, WindowState.gate_setGate]
      · rw [if_neg fun h => hed h.1, WindowState.gate_setGate_of_ne _ (Ne.symm hed)]
        rfl
    · rw [WindowState.begun_settled_of_ne hpending, if_neg]
      · rfl
      · rintro ⟨-, -, h⟩
        exact hpending h

/-- A window that waits for a page waits no more once it is told of one; a result that it passes
over stays in the account. -/
theorem Balanced.settled {e : Direction} {r : FetchResult}
    (hb : Balanced s d (x + if e = d then 1 else 0) y) :
    Balanced (s.begun (.settled e r)) d
      (x + if e = d ∧ s.heeds e r = false then 1 else 0) y := by
  have hgate := gate_begun_settled (s := s) (e := e) (r := r) d
  have hcount := hb.count
  have hunder : (s.begun (.settled e r)).underway d = s.underway d := by
    rw [underway, underway, results_begun, pageTasks_begun]
  by_cases hsettles : e = d ∧ s.heeds e r = true
  · obtain ⟨rfl, hheeds⟩ := hsettles
    rw [if_pos ⟨rfl, hheeds⟩] at hgate
    have hne : (s.begun (.settled e r)).gate e ≠ .pending := hgate ▸ gate_ne_pending r
    refine ⟨?_, fun hp => absurd hp hne⟩
    rw [if_pos rfl, awaited_of_pending (heeds_iff.1 hheeds).2] at hcount
    rw [hunder, awaited_of_ne hne, hheeds, if_neg (by simp)]
    omega
  · rw [if_neg hsettles] at hgate
    have hiff : (e = d ∧ s.heeds e r = false) ↔ e = d :=
      ⟨fun h => h.1, fun hed => ⟨hed, eq_false_of_ne_true fun h => hsettles ⟨hed, h⟩⟩⟩
    refine ⟨?_, fun hp => ?_⟩
    · rw [hunder, awaited, hgate, ← awaited]
      simpa only [hiff] using hcount
    · rw [scroll_begun]
      exact hb.scroll (hgate ▸ hp)

/-! ## Runs -/

/-- What holds of the requests of a direction throughout a run. -/
structure Accounted (h : List (Session × Move)) (s : Session) (d : Direction) : Prop where
  balanced : Balanced s d (lost h d + ignored h d) (abandoned h d)
  ignored_le : s.window.state.tornDown = false → ignored h d ≤ abandoned h d

theorem Opened.accounted (ho : Opened s) (d : Direction) : Accounted [] s d := by
  have hidle : s.gate d = .idle := by
    rw [gate, ho.state]
    cases d <;> rfl
  have hne : s.gate d ≠ .pending := by
    rw [hidle]
    exact Gate.noConfusion
  refine ⟨⟨?_, fun hpending => absurd hpending hne⟩, fun _ => Nat.le_refl 0⟩
  rw [underway, pageTasks, ho.tasks, ho.results, awaited_of_ne hne]
  rfl

theorem ignored_cons_of_ne (hm : m ≠ .hearResult) : ignored ((s, m) :: h) d = ignored h d := by
  have hno : s.ignores m d = false := by
    unfold ignores
    split
    · exact absurd rfl hm
    · rfl
  rw [ignored_cons, hno, if_neg Bool.false_ne_true, Nat.add_zero]

theorem lost_cons_of_none (hm : s.answer? m = none) : lost ((s, m) :: h) d = lost h d := by
  rw [lost_cons, loses, hm, if_neg Bool.false_ne_true, Nat.add_zero]

theorem abandoned_cons_of_not (hm : s.replacedBy m = false) :
    abandoned ((s, m) :: h) d = abandoned h d := by
  rw [abandoned_cons, abandons, hm, Bool.false_and, if_neg Bool.false_ne_true, Nat.add_zero]

/-- Each exchange of the loaded part abandons what is awaited then. -/
theorem abandoned_cons_of_replacedBy (hm : s.replacedBy m = true) :
    abandoned ((s, m) :: h) d = abandoned h d + s.awaited d := by
  rw [abandoned_cons, abandons, hm, Bool.true_and, awaited]
  simp only [decide_eq_true_eq]

/-- A result in hand is counted as ignored when the window passes over it. -/
theorem ignored_cons_of_hears {e : Direction} {r : FetchResult}
    {results : List (Direction × FetchResult)} (hresults : s.results = (e, r) :: results)
    (hbefore : ({ s with results } : Session).beforeSettling e r = .ok s₁) :
    ignored ((s, .hearResult) :: h) d =
      ignored h d + if e = d ∧ s₁.heeds e r = false then 1 else 0 := by
  have hiff : s.ignores .hearResult d = true ↔ e = d ∧ s₁.heeds e r = false := by
    simp only [ignores, hresults, passesOver, hbefore, Bool.and_eq_true, decide_eq_true_eq,
      Bool.not_eq_true']
  rw [ignored_cons]
  simp only [hiff]

/-- One move keeps the account. -/
theorem Accounted.move (ha : Accounted h s d) (hm : s.move m = some s') :
    Accounted ((s, m) :: h) s' d := by
  cases move_turn hm with
  | passes hhear hanswer hreplaced hp =>
    constructor
    · rw [lost_cons_of_none hanswer, ignored_cons_of_ne hhear, abandoned_cons_of_not hreplaced]
      exact ha.balanced.passes hp
    · rw [ignored_cons_of_ne hhear, abandoned_cons_of_not hreplaced]
      exact fun htorn => ha.ignored_le (hp.tornDown htorn)
  | replaces hhear hanswer hreplaced hasks =>
    have hr : s.replaces .jumpToLatest = true := (Bool.and_eq_true_iff.1 hreplaced).2
    constructor
    · rw [lost_cons_of_none hanswer, ignored_cons_of_ne hhear,
        abandoned_cons_of_replacedBy hreplaced]
      exact (ha.balanced.replaces hr).passes hasks.passes
    · rw [ignored_cons_of_ne hhear, abandoned_cons_of_replacedBy hreplaced]
      -- a window that jumps is not torn down
      have htorn := (WindowState.accepts_iff.1 (replaces_iff.1 hr).2.1).1
      exact fun _ => Nat.le_trans (ha.ignored_le htorn) (Nat.le_add_right _ _)
  | answers e hhear hanswer hreplaced hanswers =>
    constructor
    · rw [lost_cons, ignored_cons_of_ne hhear, abandoned_cons_of_not hreplaced]
      have key := ha.balanced.answers hanswers hanswer
      rwa [Nat.add_right_comm] at key
    · rw [ignored_cons_of_ne hhear, abandoned_cons_of_not hreplaced, hanswers.window]
      exact ha.ignored_le
  | hears e r results s₁ hhear hresults hbefore hasks =>
    subst hhear
    have hpasses := beforeSettling_passes hbefore
    have htaken := (ha.balanced.taken hresults).passes hpasses
    constructor
    · rw [lost_cons_of_none rfl, ignored_cons_of_hears hresults hbefore,
        abandoned_cons_of_not rfl, ← Nat.add_assoc]
      exact htaken.settled.passes hasks.passes
    · intro htorn
      rw [hasks.tornDown, tornDown_begun Event.noConfusion] at htorn
      have hle := ha.ignored_le (hpasses.tornDown htorn)
      rw [ignored_cons_of_hears hresults hbefore, abandoned_cons_of_not rfl]
      split
      · next hover =>
        obtain ⟨rfl, hover⟩ := hover
        -- a window that is not torn down and waits for a page takes notice of it
        have hne : s₁.gate e ≠ .pending := by
          intro hpending
          have haccepts : s₁.window.state.accepts (.settled e r) = true :=
            WindowState.accepts_iff.2 ⟨htorn, .inl (htaken.scroll hpending)⟩
          rw [heeds_iff.2 ⟨haccepts, hpending⟩] at hover
          cases hover
        have hcount := htaken.count
        rw [if_pos rfl, awaited_of_ne hne] at hcount
        omega
      · exact hle

theorem Run.accounted (hrun : Run h s) (d : Direction) : Accounted h s d := by
  induction hrun with
  | opened ho => exact ho.accounted d
  | move _ hm ih => exact ih.move hm

/-- **Requests under way.** In every run and for each direction, the requests under way, those that
were lost and those that the window passed over are together as many as it waits for now and those
that it waited for when the loaded part was exchanged. So at most one request of a direction is
under way as long as the loaded part was never exchanged while one was awaited. -/
theorem underway_account (hrun : Run h s) (d : Direction) :
    s.underway d + lost h d + ignored h d = s.awaited d + abandoned h d ∧
      (s.underway d ≤ 1 ↔ s.awaited d + abandoned h d ≤ lost h d + ignored h d + 1) ∧
      (abandoned h d = 0 → s.underway d ≤ 1) := by
  have hcount := (hrun.accounted d).balanced.count
  have hone : s.awaited d ≤ 1 := by
    rw [awaited]
    split <;> omega
  refine ⟨by omega, by omega, by omega⟩

/-- A jump while both gates are pending asks for both pages again. -/
theorem underway_account_exchanged : ∃ h s, Run h s ∧ s.underway .newer = 2 ∧
    s.underway .newer + lost h .newer + ignored h .newer = s.awaited .newer + abandoned h .newer ∧
      (s.underway .newer ≤ 1 ↔
        s.awaited .newer + abandoned h .newer ≤ lost h .newer + ignored h .newer + 1) ∧
      (abandoned h .newer = 0 → s.underway .newer ≤ 1) := by
  obtain ⟨h, s, hrun, htwo⟩ := exists_run_of_trial
    { messages := 5, pageSize := 2, scrollTo := some .first }
    [.mount 10, .input (.key .bottom false)] (fun _ s => decide (s.underway .newer = 2))
    (by decide +kernel)
  exact ⟨h, s, hrun, of_decide_eq_true htwo, underway_account hrun .newer⟩

/-- So there is no bound of one request for each direction over all runs. -/
theorem not_forall_underway_le_one :
    ¬ ∀ (h : List (Session × Move)) (s : Session) (d : Direction), Run h s → s.underway d ≤ 1 := by
  intro hone
  obtain ⟨h, s, hrun, htwo⟩ := exists_run_of_trial
    { messages := 5, pageSize := 2, scrollTo := some .first }
    [.mount 10, .input (.key .bottom false)] (fun _ s => decide (1 < s.underway .newer))
    (by decide +kernel)
  exact Nat.not_lt_of_le (hone h s .newer hrun) (of_decide_eq_true htwo)

theorem exists_of_loses (hl : s.loses m d = true) :
    ∃ fault, (s.feed.settle d).2 = .error fault := by
  rw [loses] at hl
  split at hl
  · next e fault hanswer =>
    obtain rfl := of_decide_eq_true hl
    exact ⟨fault, (eq_of_answer? hanswer).symm⟩
  · cases hl

/-- A request is lost only where there is no number left to count it by, or where its page would end
beyond all counts. -/
theorem lost_pos (hrun : Run h s) (hlost : 0 < lost h d) :
    Feed.requestBound ≤ s.feed.requests + 1 ∨
      d = .newer ∧ Count.bound ≤ s.feed.remote.size + s.feed.config.pageSize := by
  induction hrun with
  | opened _ => cases hlost
  | @move h s s' m _ hm ih =>
    have hturn := move_turn hm
    have hcontinues := hturn.continues
    have hsize := hcontinues.size_le
    have hrequests := hcontinues.requests
    have hnow : Feed.requestBound ≤ s.feed.requests + 1 ∨
        d = .newer ∧ Count.bound ≤ s.feed.remote.size + s.feed.config.pageSize := by
      rw [lost_cons] at hlost
      by_cases hbefore : 0 < lost h d
      · exact ih hbefore
      · have hloses : s.loses m d = true := by
          by_contra hno
          rw [if_neg hno] at hlost
          exact hbefore hlost
        have hstart := s.feed.newerStart_le
        refine (Feed.exists_settle_error_iff.1 (exists_of_loses hloses)).2.imp_right ?_
        rintro ⟨-, -, hd, hbound⟩
        exact ⟨hd, by omega⟩
    -- neither the count of requests nor the history ever shrinks
    rw [hcontinues.config]
    refine hnow.imp (fun hbound => ?_) fun ⟨hd, hbound⟩ => ⟨hd, ?_⟩ <;> omega

/-- **No gate waits in vain.** In every run, while the window is not torn down, a pending gate has
a request of its direction under way, unless one was lost. Requests are lost in either direction once
all numbers to count them by are used up, and else toward newer messages only, where the end of a page
is no count; and unless the loaded part was exchanged while one was awaited, a lost request leaves its
gate pending with nothing under way. -/
theorem pending_underway (hrun : Run h s) (htorn : s.window.state.tornDown = false)
    (d : Direction) :
    (s.gate d = .pending → 0 < s.underway d ∨ 0 < lost h d) ∧
      (0 < lost h d → Feed.requestBound ≤ s.feed.requests + 1 ∨
        d = .newer ∧ Count.bound ≤ s.feed.remote.size + s.feed.config.pageSize) ∧
      (0 < lost h d → abandoned h d = 0 → s.gate d = .pending ∧ s.underway d = 0) := by
  have haccounted := hrun.accounted d
  have hcount := haccounted.balanced.count
  have hle := haccounted.ignored_le htorn
  refine ⟨fun hpending => ?_, lost_pos hrun, fun hlost hnone => ?_⟩
  · rw [awaited_of_pending hpending] at hcount
    omega
  · by_cases hpending : s.gate d = .pending
    · rw [awaited_of_pending hpending] at hcount
      exact ⟨hpending, by omega⟩
    · rw [awaited_of_ne hpending] at hcount
      omega

/-- On screen, a window waits for a page that is under way. -/
theorem pending_underway_mounted : ∃ h s, Run h s ∧ s.window.state.tornDown = false ∧
    s.gate .newer = .pending ∧
      (s.gate .newer = .pending → 0 < s.underway .newer ∨ 0 < lost h .newer) ∧
      (0 < lost h .newer → Feed.requestBound ≤ s.feed.requests + 1 ∨
        Direction.newer = .newer ∧
          Count.bound ≤ s.feed.remote.size + s.feed.config.pageSize) ∧
      (0 < lost h .newer → abandoned h .newer = 0 →
        s.gate .newer = .pending ∧ s.underway .newer = 0) := by
  obtain ⟨h, s, hrun, hs⟩ := exists_run_of_trial { messages := 5, pageSize := 2 } [.mount 10]
    (fun _ s => decide (s.window.state.tornDown = false ∧ s.gate .newer = .pending))
    (by decide +kernel)
  obtain ⟨htorn, hpending⟩ := of_decide_eq_true hs
  exact ⟨h, s, hrun, htorn, hpending, pending_underway hrun htorn .newer⟩

/-- With the largest page size a request for newer messages is lost, and its gate waits in vain. -/
theorem exists_pending_without_underway : ∃ h s, Run h s ∧ s.window.state.isMounted = true ∧
    s.gate .newer = .pending ∧ s.underway .newer = 0 := by
  obtain ⟨h, s, hrun, hs⟩ := exists_run_of_trial
    { messages := 5, pageSize := 18446744073709551615 } [.mount 10, .perform 0]
    (fun _ s => decide (s.window.state.isMounted = true ∧ s.gate .newer = .pending ∧
      s.underway .newer = 0))
    (by decide +kernel)
  exact ⟨h, s, hrun, of_decide_eq_true hs⟩

end Scrollback.Session
