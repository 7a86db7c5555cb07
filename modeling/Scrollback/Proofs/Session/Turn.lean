import Scrollback.Proofs.Feed.Growth
import Scrollback.Proofs.Session.Dispatch
import Scrollback.Session.Clock
import Scrollback.Session.Input
/-!
# What a move does to the page requests

Things happen to a session in any order: the reader does something, the clock ticks, work is done,
and what it came to is heard. Most of this passes over the page requests that are under way. What
does not is either a jump that exchanges the loaded part, or an answer that comes in, or an answer
that is heard.

## Main definitions

* `Move`, `Session.move` — what can happen to a session.
* `Session.Passes` — no page request is answered or heard, and nothing is exchanged.
* `Session.Answers` — a page request is answered.
* `Session.Turn` — the four kinds of move.

## Main statements

* `Session.move_turn` — every move is of one of the four kinds.
-/

namespace Scrollback

/-- What can happen to a session. -/
inductive Move where
  /-- It goes on screen, on a list of so many rows. -/
  | mount (rows : Nat)
  /-- The terminal reports something. -/
  | input (i : Input)
  /-- The clock ticks. -/
  | tick
  /-- It goes off screen for good. -/
  | teardown
  /-- A frame is drawn, on a list of so many rows. -/
  | resize (rows : Nat)
  /-- Milliseconds pass. -/
  | wait (ms : Nat)
  /-- The task at a place among those under way is done. -/
  | perform (n : Nat)
  /-- The settled request that has waited longest is heard. -/
  | hearResult
  /-- The news that has waited longest is heard. -/
  | hearNews
  /-- No news is taken any more. -/
  | close
deriving DecidableEq

/-- The reader jumps to the newest message. -/
def Move.jumps : Move → Bool
  | .input (.key .bottom _) | .input (.key (.char 'G') _) => true
  | _ => false

/-- The event is not about a page request or the exchange of the loaded part. -/
def Event.leavesGates : Event → Bool
  | .settled _ _ | .reset => false
  | _ => true

theorem WindowState.begun_gate {s : WindowState} {e : Event} (he : e.leavesGates = true)
    (d : Direction) : (s.begun e).gate d = s.gate d := by
  cases e with
  | settled d result => cases he
  | reset => cases he
  | teardown => cases d <;> rfl
  | _ => rfl

namespace Session

variable {s s' s₁ s₂ : Session} {d : Direction} {e : Event} {m : Move}

/-- The session after a move; none if the move is not possible or the session faults. -/
def move (s : Session) : Move → Option Session
  | .mount rows => (s.mount rows).toOption
  | .input i => (s.receiveInput i).toOption
  | .tick => (s.dispatch .tick).toOption
  | .teardown => (s.dispatch .teardown).toOption
  | .resize rows => some (s.mapWindow fun w => { w with viewport.height := rows })
  | .wait ms => some { s with now := s.now + ms }
  | .perform n => s.tasks[n]?.map fun t => { s with tasks := s.tasks.eraseIdx n }.perform t
  | .hearResult =>
    match s.results with
    | (d, r) :: results => ({ s with results }.handleResult d r).toOption
    | [] => none
  | .hearNews =>
    match s.news with
    | e :: news => ({ s with news }.handleNews e).toOption
    | [] => none
  | .close => some { s with closed := true }

/-! ## Moves that pass over the page requests -/

/-- From one session to the next no page request is answered or heard and nothing is exchanged;
pages are asked for through idle gates. -/
structure Passes (s s' : Session) : Prop where
  results : s'.results = s.results
  feed : s.feed.Grows s'.feed
  tornDown : s'.window.state.tornDown = false → s.window.state.tornDown = false
  scroll : s.window.state.scroll ≠ .initializing → s'.window.state.scroll ≠ .initializing
  gate : ∀ d, Keeps d s s' ∨ Closes d s s'

theorem Asks.passes (hasks : Asks s s') : Passes s s' where
  results := hasks.results
  feed := hasks.feed ▸ .refl _
  tornDown := fun htorn => hasks.tornDown ▸ htorn
  scroll := hasks.scroll
  gate := hasks.gate

theorem Passes.refl (s : Session) : Passes s s := (Asks.refl s).passes

theorem Passes.trans (hp : Passes s s₁) (hq : Passes s₁ s₂) : Passes s s₂ where
  results := hq.results.trans hp.results
  feed := hp.feed.trans hq.feed
  tornDown := fun htorn => hp.tornDown (hq.tornDown htorn)
  scroll := fun hs => hq.scroll (hp.scroll hs)
  gate := fun d => keeps_or_closes_trans (hp.gate d) (hq.gate d) hq.scroll

/-- What leaves window, page requests and results alone, and whose feed loses nothing. -/
theorem Passes.of_eq (hw : s'.window.state = s.window.state) (hr : s'.results = s.results)
    (hf : s.feed.Grows s'.feed) (ht : ∀ d, s'.pageTasks d = s.pageTasks d) : Passes s s' where
  results := hr
  feed := hf
  tornDown := fun htorn => hw ▸ htorn
  scroll := fun hs => hw ▸ hs
  gate := fun d => .inl ⟨by rw [Session.gate, Session.gate, hw], ht d⟩

/-- An event that is not about page requests changes neither gates nor loaded part by itself, but
for a jump. -/
theorem begun_passes (he : e.leavesGates = true) (hr : s.replaces e = false) :
    Passes s (s.begun e) := by
  cases haccepts : s.window.state.accepts e with
  | false =>
    rw [begun_of_not_accepts haccepts]
    exact .refl s
  | true =>
    have hstate := state_begun haccepts hr
    refine
      { results := results_begun s e
        feed := ?_
        tornDown := fun htorn => ?_
        scroll := fun hs => by rw [scroll_begun]; exact hs
        gate := fun d => .inl ⟨?_, pageTasks_begun s e d⟩ }
    · rw [feed_begun haccepts]
      split
      · next hjump =>
        refine Feed.grows_jumpToLatest fun hpage => ?_
        rw [replaces_iff.2 ⟨hjump, haccepts, hpage⟩] at hr
        cases hr
      · exact .refl _
    · rw [hstate] at htorn
      cases e with
      | teardown => cases htorn
      | settled d result => cases he
      | _ => exact htorn
    · rw [gate, gate, hstate, WindowState.begun_gate he]

theorem dispatch_passes (he : e.leavesGates = true) (hr : s.replaces e = false)
    (hs : s.dispatch e = .ok s') : Passes s s' :=
  (begun_passes he hr).trans (dispatch_asks hs).passes

/-- What an event other than a jump passes over. -/
theorem dispatch_passes_of_ne (he : e.leavesGates = true) (hne : e ≠ .jumpToLatest)
    (hs : s.dispatch e = .ok s') : Passes s s' :=
  dispatch_passes he (replaces_of_ne hne) hs

theorem pageTasks_start_of_ne {job : Job} (hjob : job ≠ .page d) (s : Session) (delay : Nat) :
    (s.start delay job).pageTasks d = s.pageTasks d := by
  simp [pageTasks, start, hjob]

/-- A change that the page requests are not concerned by may come first. -/
theorem Passes.after (hp : Passes s₁ s') (hw : s₁.window.state = s.window.state)
    (hr : s₁.results = s.results) (hf : s₁.feed = s.feed) (ht : s₁.tasks = s.tasks) :
    Passes s s' :=
  (Passes.of_eq hw hr (hf ▸ .refl _) fun d => by rw [pageTasks, pageTasks, ht]).trans hp

theorem mount_passes {rows : Nat} (hs : s.mount rows = .ok s') : Passes s s' := by
  rw [mount] at hs
  obtain ⟨s₁, hdispatch, hs⟩ := Checked.bind_eq_ok.1 hs
  have hmount := dispatch_passes_of_ne rfl Event.noConfusion hdispatch
  have hshown : Passes s s₁ := hmount.after rfl rfl rfl rfl
  refine hshown.trans ?_
  cases hevery : s₁.incomingEvery with
  | none =>
    rw [hevery] at hs
    cases hs
    exact .refl _
  | some period =>
    rw [hevery] at hs
    cases hs
    exact .of_eq rfl rfl (.refl _) fun d => pageTasks_start_of_ne Job.noConfusion s₁ period

theorem scroll_passes {move : Viewport → Viewport} (hs : s.scroll move = .ok s') :
    Passes s s' := by
  have hscroll := dispatch_passes_of_ne (e := .scroll _) rfl Event.noConfusion hs
  exact hscroll.after rfl rfl rfl rfl

theorem setFocus_passes {focused : Bool} (hs : s.setFocus focused = .ok s') : Passes s s' := by
  have hfocus := dispatch_passes_of_ne (e := .focus focused) rfl Event.noConfusion hs
  exact hfocus.after rfl rfl rfl rfl

theorem retry_passes (hs : s.retry = .ok s') : Passes s s' := by
  rw [retry] at hs
  split at hs
  · have hretry := dispatch_passes_of_ne (e := .retry _) rfl Event.noConfusion hs
    exact hretry.after rfl rfl rfl rfl
  · cases hs
    exact .refl s

theorem send_passes {text : String} (hs : s.send text = .ok s') : Passes s s' := by
  rw [send] at hs
  obtain ⟨⟨feed, sent⟩, hsend, hs⟩ := Checked.bind_eq_ok.1 hs
  have hupdate := dispatch_passes_of_ne (e := .update) rfl Event.noConfusion hs
  refine Passes.trans ?_ hupdate
  exact .of_eq rfl rfl (Feed.grows_send hsend) fun d => pageTasks_start_of_ne Job.noConfusion _ _

theorem handleNews_passes {n : FeedEvent} (hs : s.handleNews n = .ok s') : Passes s s' := by
  cases n with
  | arrived i ours =>
    rw [handleNews] at hs
    have hs : (if ours then .ok s.unread else Count.add s.unread 1) >>=
        (fun unread => ({ s with unread } : Session).dispatch .update) = .ok s' := by
      rw [← hs]
      cases ours <;> rfl
    obtain ⟨unread, -, hs⟩ := Checked.bind_eq_ok.1 hs
    have hupdate := dispatch_passes_of_ne (e := .update) rfl Event.noConfusion hs
    exact hupdate.after rfl rfl rfl rfl
  | acknowledged sent =>
    cases hs
    exact .refl s

/-- The move makes the session exchange the loaded part for the newest page. -/
def replacedBy (s : Session) (m : Move) : Bool := m.jumps && s.replaces .jumpToLatest

/-- A key makes the reader jump, or does something that passes over the page requests. -/
theorem press_cases {k : Key} {control : Bool} (hs : s.press k control = .ok s') :
    (Move.input (.key k control)).jumps = false ∧ Passes s s' ∨
      (Move.input (.key k control)).jumps = true ∧ s.dispatch .jumpToLatest = .ok s' := by
  unfold press at hs
  split at hs
  case h_1 | h_2 | h_3 =>
    cases hs
    exact .inl ⟨rfl, (Passes.refl _).after rfl rfl rfl rfl⟩
  case h_4 | h_5 | h_6 | h_7 | h_8 | h_9 | h_10 | h_11 => exact .inl ⟨rfl, scroll_passes hs⟩
  case h_12 | h_13 => exact .inr ⟨rfl, hs⟩
  case h_14 => exact .inl ⟨rfl, dispatch_passes_of_ne rfl Event.noConfusion hs⟩
  case h_15 => exact .inl ⟨rfl, retry_passes hs⟩
  case h_16 => exact .inl ⟨rfl, send_passes hs⟩
  case h_17 hbottom hend _ _ _ _ _ _ =>
    cases hs
    refine .inl ⟨?_, .refl s⟩
    unfold Move.jumps
    split
    · next heq => cases heq; exact absurd rfl hbottom
    · next heq => cases heq; exact absurd rfl hend
    · rfl

/-- What the terminal reports: a jump, or something that passes over the page requests. -/
theorem receiveInput_cases {i : Input} (hs : s.receiveInput i = .ok s') :
    (Move.input i).jumps = false ∧ Passes s s' ∨
      (Move.input i).jumps = true ∧ s.dispatch .jumpToLatest = .ok s' := by
  cases i with
  | key k control => exact press_cases hs
  | wheelUp =>
    have hs : s.scrollUp wheelStep = .ok s' := hs
    exact .inl ⟨rfl, scroll_passes hs⟩
  | wheelDown =>
    have hs : s.scrollDown wheelStep = .ok s' := hs
    exact .inl ⟨rfl, scroll_passes hs⟩
  | focusGained =>
    have hs : s.setFocus true = .ok s' := hs
    exact .inl ⟨rfl, setFocus_passes hs⟩
  | focusLost =>
    have hs : s.setFocus false = .ok s' := hs
    exact .inl ⟨rfl, setFocus_passes hs⟩
  | other =>
    cases hs
    exact .inl ⟨rfl, .refl s⟩

/-! ## Answers -/

/-- The page request that a move answers, and how it settles. -/
def answer? (s : Session) : Move → Option (Direction × Checked FetchResult)
  | .perform n =>
    match s.tasks[n]? with
    | some ⟨_, _, .page d⟩ => some (d, (s.feed.settle d).2)
    | _ => none
  | _ => none

theorem eq_of_answer? {a : Checked FetchResult} (ha : s.answer? m = some (d, a)) :
    a = (s.feed.settle d).2 := by
  unfold answer? at ha
  split at ha
  · split at ha
    · cases ha
      rfl
    · cases ha
  · cases ha

/-- A page request is answered: the answer waits to be heard, unless it was lost. -/
structure Answers (d : Direction) (s s' : Session) : Prop where
  window : s'.window = s.window
  feed : s'.feed = (s.feed.settle d).1
  results : s'.results = s.results ++ ((s.feed.settle d).2.toOption.map (d, ·)).toList
  pageTasks : ∀ e, s.pageTasks e = s'.pageTasks e + if e = d then 1 else 0

/-- A task that is taken off the list is missing from its counts. -/
theorem countP_eraseIdx {ts : List Task} {n : Nat} {t : Task} (ht : ts[n]? = some t)
    (p : Task → Bool) : ts.countP p = (ts.eraseIdx n).countP p + if p t then 1 else 0 := by
  induction ts generalizing n with
  | nil => cases ht
  | cons u ts ih =>
    cases n with
    | zero =>
      cases ht
      rw [List.eraseIdx_cons_zero, List.countP_cons]
    | succ n =>
      rw [List.eraseIdx_cons_succ, List.countP_cons, List.countP_cons, ih ht]
      omega

theorem pageTasks_report (s : Session) (n : FeedEvent) (d : Direction) :
    (s.report n).pageTasks d = s.pageTasks d := by
  rw [report]
  split <;> rfl

/-- The news of an acknowledgement does not bear on the page requests. -/
theorem acknowledgement_passes (s : Session) (number due : Nat) (sent : PendingSend) :
    Passes s (s.perform ⟨number, due, .acknowledgement sent⟩) := by
  have hgrows := s.feed.grows_acknowledge sent
  cases hack : s.feed.acknowledge sent with
  | mk feed ours =>
    rw [hack] at hgrows
    cases ours with
    | true =>
      simp only [perform, hack]
      refine .of_eq ?_ ?_ ?_ fun d => pageTasks_report _ _ d
      · rw [report]; split <;> rfl
      · rw [report]; split <;> rfl
      · rw [report]; split <;> exact hgrows
    | false =>
      simp only [perform, hack]
      exact .of_eq rfl rfl hgrows fun d => rfl

/-- Neither do messages that come in, nor the wait for the next one. -/
theorem subscription_passes (s : Session) (number due period delivered : Nat) :
    Passes s (s.perform ⟨number, due, .subscription period delivered⟩) := by
  cases hreceive : s.feed.receive (subscriptionAuthor (delivered + 1))
      (subscriptionText (delivered + 1)) (s.timeAt due) with
  | error fault =>
    simp only [perform, hreceive]
    exact .refl s
  | ok p =>
    have hgrows := Feed.grows_receive hreceive
    simp only [perform, hreceive]
    split
    · exact .of_eq rfl rfl hgrows fun d => rfl
    · exact .of_eq rfl rfl hgrows fun d => by simp [pageTasks]

/-- A page request that is done leaves its answer, if there is one. -/
theorem perform_page (s : Session) (number due : Nat) (d : Direction) :
    s.perform ⟨number, due, .page d⟩ =
      { s with
        feed := (s.feed.settle d).1
        results := s.results ++ ((s.feed.settle d).2.toOption.map (d, ·)).toList } := by
  cases hsettle : s.feed.settle d with
  | mk feed r =>
    cases r with
    | ok r =>
      simp only [perform, hsettle]
      rfl
    | error fault => simp [perform, hsettle, Except.toOption]

/-- Work that is done answers a page request, or passes over the page requests. -/
theorem perform_cases {n : Nat} (hs : s.move (.perform n) = some s') :
    s.answer? (.perform n) = none ∧ Passes s s' ∨
      ∃ d, s.answer? (.perform n) = some (d, (s.feed.settle d).2) ∧ Answers d s s' := by
  obtain ⟨⟨number, due, job⟩, ht, rfl⟩ := Option.map_eq_some_iff.1 hs
  have hcount (d : Direction) : s.pageTasks d =
      ({ s with tasks := s.tasks.eraseIdx n } : Session).pageTasks d +
        if job = .page d then 1 else 0 := by
    rw [pageTasks, countP_eraseIdx ht]
    simp only [decide_eq_true_eq]
    rfl
  cases job with
  | page d =>
    rw [perform_page]
    refine .inr ⟨d, by simp only [answer?, ht], rfl, rfl, rfl, fun e => ?_⟩
    refine (hcount e).trans ?_
    simp only [Job.page.injEq, eq_comm]
    rfl
  | acknowledgement sent =>
    have hpasses := acknowledgement_passes { s with tasks := s.tasks.eraseIdx n } number due sent
    refine .inl ⟨by simp only [answer?, ht], Passes.trans ?_ hpasses⟩
    exact .of_eq rfl rfl (.refl _) fun d => by rw [hcount d, if_neg Job.noConfusion, Nat.add_zero]
  | subscription period delivered =>
    have hpasses := subscription_passes { s with tasks := s.tasks.eraseIdx n } number due period
      delivered
    refine .inl ⟨by simp only [answer?, ht], Passes.trans ?_ hpasses⟩
    exact .of_eq rfl rfl (.refl _) fun d => by rw [hcount d, if_neg Job.noConfusion, Nat.add_zero]

/-! ## Hearing a result -/

/-- The session when the window is told of a result: the failure that it makes up for is cleared,
and the window knows what the page brought. -/
def beforeSettling (s : Session) (d : Direction) (r : FetchResult) : Checked Session :=
  (if r.isLoaded && s.hasFailed d then { s with failure := none } else s).dispatch .update

theorem beforeSettling_passes {r : FetchResult} (hs : s.beforeSettling d r = .ok s') :
    Passes s s' := by
  rw [beforeSettling] at hs
  have hupdate := dispatch_passes_of_ne rfl Event.noConfusion hs
  split at hupdate
  · exact hupdate.after rfl rfl rfl rfl
  · exact hupdate

theorem handleResult_eq_ok {r : FetchResult} : s.handleResult d r = .ok s' ↔
    ∃ s₁, s.beforeSettling d r = .ok s₁ ∧ s₁.dispatch (.settled d r) = .ok s' :=
  Checked.bind_eq_ok

/-- What a move does to the page requests. -/
inductive Turn (s : Session) (m : Move) (s' : Session) : Prop where
  /-- It passes over them. -/
  | passes : m ≠ .hearResult → s.answer? m = none → s.replacedBy m = false → Passes s s' →
      Turn s m s'
  /-- The loaded part that they were made for is exchanged. -/
  | replaces : m ≠ .hearResult → s.answer? m = none → s.replacedBy m = true →
      Asks (s.begun .jumpToLatest) s' → Turn s m s'
  /-- One of them is answered. -/
  | answers (d : Direction) : m ≠ .hearResult → s.answer? m = some (d, (s.feed.settle d).2) →
      s.replacedBy m = false → Answers d s s' → Turn s m s'
  /-- An answer is heard. -/
  | hears (d : Direction) (r : FetchResult) (results : List (Direction × FetchResult))
      (s₁ : Session) : m = .hearResult → s.results = (d, r) :: results →
      ({ s with results } : Session).beforeSettling d r = .ok s₁ →
      Asks (s₁.begun (.settled d r)) s' → Turn s m s'

/-- Every move is of one of these kinds. -/
theorem move_turn (hs : s.move m = some s') : Turn s m s' := by
  cases m with
  | mount rows => exact .passes nofun rfl rfl (mount_passes (toOption_eq_some.1 hs))
  | input i =>
    rcases receiveInput_cases (toOption_eq_some.1 hs) with ⟨hm, hpasses⟩ | ⟨hm, hdispatch⟩
    · exact .passes nofun rfl (by rw [replacedBy, hm, Bool.false_and]) hpasses
    · cases hr : s.replaces .jumpToLatest with
      | false =>
        refine .passes nofun rfl ?_ (dispatch_passes rfl hr hdispatch)
        rw [replacedBy, hr, Bool.and_false]
      | true =>
        refine .replaces nofun rfl ?_ (dispatch_asks hdispatch)
        rw [replacedBy, hm, hr, Bool.and_self]
  | tick =>
    exact .passes nofun rfl rfl
      (dispatch_passes_of_ne rfl Event.noConfusion (toOption_eq_some.1 hs))
  | teardown =>
    exact .passes nofun rfl rfl
      (dispatch_passes_of_ne rfl Event.noConfusion (toOption_eq_some.1 hs))
  | resize rows =>
    cases hs
    exact .passes nofun rfl rfl ((Passes.refl _).after rfl rfl rfl rfl)
  | wait ms =>
    cases hs
    exact .passes nofun rfl rfl ((Passes.refl _).after rfl rfl rfl rfl)
  | perform n =>
    rcases perform_cases hs with ⟨hnone, hpasses⟩ | ⟨d, hanswer, hanswers⟩
    · exact .passes nofun hnone rfl hpasses
    · exact .answers d nofun hanswer rfl hanswers
  | hearResult =>
    rw [move] at hs
    split at hs
    · next d r results hresults =>
      obtain ⟨s₁, hbefore, hdispatch⟩ := handleResult_eq_ok.1 (toOption_eq_some.1 hs)
      exact .hears d r results s₁ rfl hresults hbefore (dispatch_asks hdispatch)
    · cases hs
  | hearNews =>
    rw [move] at hs
    split at hs
    · next e news hnews =>
      have hpasses := handleNews_passes (toOption_eq_some.1 hs)
      exact .passes nofun rfl rfl (hpasses.after rfl rfl rfl rfl)
    · cases hs
  | close =>
    cases hs
    exact .passes nofun rfl rfl ((Passes.refl _).after rfl rfl rfl rfl)

theorem feed_begun_of_replaces (hr : s.replaces .jumpToLatest = true) :
    (s.begun .jumpToLatest).feed = s.feed.jumpToLatest.1 :=
  feed_begun (replaces_iff.1 hr).2.1

/-- A window that is gone does not come back. -/
theorem Turn.tornDown (ht : Turn s m s') (hnot : s'.window.state.tornDown = false) :
    s.window.state.tornDown = false := by
  cases ht with
  | passes _ _ _ hp => exact hp.tornDown hnot
  | replaces _ _ _ hasks =>
    rw [hasks.tornDown, tornDown_begun Event.noConfusion] at hnot
    exact hnot
  | answers d _ _ _ ha => rwa [ha.window] at hnot
  | hears d r results s₁ _ _ hbefore hasks =>
    rw [hasks.tornDown, tornDown_begun Event.noConfusion] at hnot
    exact (beforeSettling_passes hbefore).tornDown hnot

/-- No move takes anything from the history or leaves a hole in the loaded part. -/
theorem Turn.continues (ht : Turn s m s') : s.feed.Continues s'.feed := by
  cases ht with
  | passes _ _ _ hp => exact hp.feed.toContinues
  | replaces _ _ hreplaced hasks =>
    rw [hasks.feed, feed_begun_of_replaces (Bool.and_eq_true_iff.1 hreplaced).2]
    exact s.feed.continues_jumpToLatest
  | answers d _ _ _ ha =>
    rw [ha.feed]
    exact (s.feed.grows_settle d).toContinues
  | hears d r results s₁ _ _ hbefore hasks =>
    rw [hasks.feed, feed_begun_of_ne Event.noConfusion]
    exact (beforeSettling_passes hbefore).feed.toContinues

end Session

end Scrollback
