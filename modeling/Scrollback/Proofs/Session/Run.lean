import Scrollback.Launch
import Scrollback.Proofs.Session.Turn
/-!
# Runs of a session

A session is opened, and from then on moves follow one another in any order. A run keeps its
history, newest first, so that it can be told afterwards what a page was asked for under. The
program's own ways of letting time pass and of handling all that waits are sequences of moves.

## Main definitions

* `Session.Opened` — a session that was just opened.
* `Session.Run` — a session with the history of what happened to it.
* `Session.replay` — given moves, one after the other.

## Main statements

* `Session.opened_ofHistory` — a start gives an opened session.
* `Session.run_advance`, `Session.run_drain` — passing time and handling all that waits are moves.
-/

namespace Scrollback.Session

/-- A session that was just opened: the first page is loaded, and nothing has happened yet. -/
structure Opened (s : Session) : Prop where
  feed : ∃ remote config o, s.feed = Feed.opened remote config o
  state : s.window.state = {}
  tasks : s.tasks = []
  results : s.results = []
  news : s.news = []

/-- A session with the history of its moves, each with the session it found, newest first. -/
inductive Run : List (Session × Move) → Session → Prop where
  | opened {s : Session} : Opened s → Run [] s
  | move {h : List (Session × Move)} {s s' : Session} {m : Move} :
      Run h s → s.move m = some s' → Run ((s, m) :: h) s'

/-- Moves one after the other, with the history of what they found. -/
def replay (h : List (Session × Move)) (s : Session) :
    List Move → Option (List (Session × Move) × Session)
  | [] => some (h, s)
  | m :: rest => (s.move m).bind fun s' => replay ((s, m) :: h) s' rest

variable {s s' s₁ : Session} {h h' : List (Session × Move)}

theorem run_replay {ms : List Move} (hrun : Run h s) (heq : replay h s ms = some (h', s')) :
    Run h' s' := by
  induction ms generalizing h s with
  | nil =>
    cases heq
    exact hrun
  | cons m ms ih =>
    obtain ⟨s₁, hmove, heq⟩ := Option.bind_eq_some_iff.1 heq
    exact ih (hrun.move hmove) heq

/-- A start gives an opened session. -/
theorem opened_ofHistory {o : Options} {remote : Graph} {target : Option MessageIndex}
    {now : Instant} (hs : ofHistory o remote target now = .ok s) : Opened s := by
  obtain ⟨⟨feed, n⟩, hfeed, hs⟩ := Checked.bind_eq_ok.1 hs
  cases hs
  refine ⟨⟨remote, o.feedConfig, target.elim .latest .around, ?_⟩, rfl, rfl, rfl, rfl⟩
  cases target with
  | none =>
    have hfeed : ({ remote, config := o.feedConfig } : Feed).loadLatest = (feed, n) :=
      Except.ok.inj hfeed
    exact (congrArg Prod.fst hfeed).symm
  | some target =>
    have hfeed : ({ remote, config := o.feedConfig } : Feed).loadAround target = .ok (feed, n) :=
      hfeed
    simp only [Option.elim_some, Feed.opened, hfeed]

theorem opened_ofOptions {o : Options} {file : Except FileError ByteArray} {now : Instant}
    (hs : ofOptions o file now = .ok (.ok s)) : Opened s := by
  rw [ofOptions] at hs
  obtain ⟨remote, -, hs⟩ := Checked.bind_eq_ok.1 hs
  cases remote with
  | error e => cases hs
  | ok remote =>
    dsimp only at hs
    cases htarget : o.target with
    | error e =>
      rw [htarget] at hs
      cases hs
    | ok target =>
      rw [htarget] at hs
      obtain ⟨opened, hopened, hs⟩ := Checked.bind_eq_ok.1 hs
      cases hs
      exact opened_ofHistory hopened

/-- Given moves from a start on a made-up channel. -/
def trial (o : Options) (ms : List Move) : Option (List (Session × Move) × Session) :=
  match ofOptions o (.error .notFound) ⟨⟨2025, 6, 1⟩, 0, 0⟩ with
  | .ok (.ok s) => replay [] s ms
  | _ => none

theorem run_of_trial {o : Options} {ms : List Move} (hs : trial o ms = some (h, s)) : Run h s := by
  rw [trial] at hs
  split at hs
  · next hstart => exact run_replay (.opened (opened_ofOptions hstart)) hs
  · cases hs

/-- What a trial comes to is the end of a run. -/
theorem exists_run_of_trial (o : Options) (ms : List Move)
    (p : List (Session × Move) → Session → Bool)
    (hs : ((trial o ms).any fun r => p r.1 r.2) = true) : ∃ h s, Run h s ∧ p h s = true := by
  cases htrial : trial o ms with
  | none =>
    rw [htrial] at hs
    cases hs
  | some r =>
    rw [htrial] at hs
    exact ⟨r.1, r.2, run_of_trial htrial, hs⟩

/-! ## Passing time and handling all that waits -/

/-- The task that is done next stands somewhere on the list, and is taken off it. -/
theorem next?_eq_eraseIdx {ts others : List Task} {t : Task}
    (ht : Task.next? ts = some (t, others)) : ∃ n, ts[n]? = some t ∧ others = ts.eraseIdx n := by
  induction ts generalizing t others with
  | nil => cases ht
  | cons u ts ih =>
    rw [Task.next?] at ht
    split at ht
    · next v rest hnext =>
      split at ht
      · cases ht
        obtain ⟨n, hn, rfl⟩ := ih hnext
        exact ⟨n + 1, hn, rfl⟩
      · cases ht
        exact ⟨0, rfl, rfl⟩
    · next hnone =>
      cases ht
      rw [Task.next?_eq_none.1 hnone]
      exact ⟨0, rfl, rfl⟩

theorem now_perform (s : Session) (t : Task) : (s.perform t).now = s.now := by
  unfold perform
  split
  · split <;> rfl
  · split
    · rw [report]
      split <;> rfl
    · rfl
  · dsimp only
    split
    · split <;> rfl
    · rfl

theorem run_performDue (fuel time : Nat) (hrun : Run h s) :
    ∃ h', Run (h' ++ h) (performDue fuel time s) ∧ (performDue fuel time s).now = s.now := by
  induction fuel generalizing h s with
  | zero => exact ⟨[], hrun, rfl⟩
  | succ fuel ih =>
    rw [performDue]
    split
    · next t others hnext =>
      split
      · obtain ⟨n, hn, rfl⟩ := next?_eq_eraseIdx hnext
        have hmove : s.move (.perform n) =
            some ({ s with tasks := s.tasks.eraseIdx n }.perform t) := by
          rw [move, hn, Option.map_some]
        obtain ⟨h', hrun', hnow⟩ := ih (hrun.move hmove)
        rw [now_perform] at hnow
        exact ⟨h' ++ [(s, .perform n)], by rwa [List.append_assoc], hnow⟩
      · exact ⟨[], hrun, rfl⟩
    · exact ⟨[], hrun, rfl⟩

/-- Time passes by moves: the work that falls due is done piece by piece. -/
theorem run_advance (ms : Nat) (hrun : Run h s) : ∃ h', Run (h' ++ h) (s.advance ms) := by
  obtain ⟨h', hrun', hnow⟩ :=
    run_performDue (workBy (s.now + ms) s.tasks) (s.now + ms) hrun
  refine ⟨(_, .wait ms) :: h', hrun'.move ?_⟩
  rw [move, hnow]
  rfl

theorem run_drainUpTo {fuel : Nat} {handled : List Handled} (hrun : Run h s)
    (hs : s.drainUpTo fuel = .ok (s', handled)) : ∃ h', Run (h' ++ h) s' := by
  induction fuel generalizing h s handled with
  | zero =>
    cases hs
    exact ⟨[], hrun⟩
  | succ fuel ih =>
    rw [drainUpTo] at hs
    split at hs
    · cases hs
      exact ⟨[], hrun⟩
    · next waiting s₁ htake =>
      obtain ⟨s₂, hhandle, hs⟩ := Checked.bind_eq_ok.1 hs
      obtain ⟨⟨s₃, rest⟩, hdrain, hs⟩ := Checked.bind_eq_ok.1 hs
      cases hs
      have hmove : ∃ m, s.move m = some s₂ := by
        rw [takeWaiting?] at htake
        split at htake
        · next d r results _ hresults =>
          cases htake
          refine ⟨.hearResult, ?_⟩
          rw [move, hresults]
          exact toOption_eq_some.2 hhandle
        · next e news _ hnews =>
          cases htake
          refine ⟨.hearNews, ?_⟩
          rw [move, hnews]
          exact toOption_eq_some.2 hhandle
        · cases htake
      obtain ⟨m, hmove⟩ := hmove
      obtain ⟨h', hrun'⟩ := ih (hrun.move hmove) hdrain
      exact ⟨h' ++ [(s, m)], by rwa [List.append_assoc]⟩

/-- All that waits is handled by moves. -/
theorem run_drain {handled : List Handled} (hrun : Run h s) (hs : s.drain = .ok (s', handled)) :
    ∃ h', Run (h' ++ h) s' :=
  run_drainUpTo hrun hs

end Scrollback.Session
