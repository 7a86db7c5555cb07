import Scrollback.Proofs.Session.CatchUp
import Scrollback.Proofs.Session.Exhausted
import Scrollback.Proofs.Window.Ends
/-!
# The live end of the history

A page toward newer messages tells whether any are left. When the window hears that none is, it
closes the newer gate for good, and from then on new messages come in at the end of the loaded part
or not at all. The word may be heard late, after the loaded part was exchanged or has grown. It is
true all the same: nothing takes a loaded part away from the end of the history. The one word that
would be false is that of a page for a loaded part that is empty, and no window asks for that page.

## Main definitions

* `Session.Unasked`, `Session.Unanswered` — where nothing is loaded, newer messages were not asked
  for.
* `Session.Recalls` — what a move changes by itself of the failure that is remembered.
* `Session.Started` — a session as a start leaves it.
* `Session.Informed` — what the window was told of the end of the history is true.

## Main statements

* `Session.Unasked.handle`, `Session.Unanswered.move` — an event and a move keep this.
* `Session.Run.informed` — in every run, what the window was told is true.
* `Session.exhausted_live` — a window that has come to the end misses no message.
-/

namespace Scrollback

namespace Session

variable {s s' s₁ x y a b : Session} {m : Move} {d : Direction} {e : Event}
  {es queue more : List Event} {h h' : List (Session × Move)}

/-! ## Where nothing is loaded -/

/-- Where nothing is loaded, newer messages were not asked for, and no event in a queue asks for
them again. -/
structure Unasked (queue : List Event) (s : Session) : Prop where
  exists_spans : ∃ a b, s.feed.Spans a b
  pageSize : 0 < s.feed.config.pageSize
  gate : s.graph.size = 0 → s.gate .newer = .idle
  failure : s.graph.size = 0 → s.hasFailed .newer = false
  queue : s.graph.size = 0 → .retry .newer ∉ queue

/-- An event leaves nothing loaded only where nothing was. -/
theorem handle_size_eq_zero (hspans : ∃ a b, x.feed.Spans a b)
    (hpage : 0 < x.feed.config.pageSize) (hh : x.handle e = .ok (y, more))
    (hzero : y.graph.size = 0) : x.graph.size = 0 := by
  rcases handle_feed_cases hh with hsame | hjump
  · rw [graph, hsame] at hzero
    exact hzero
  · rw [graph, hjump] at hzero
    exact Feed.size_loaded_eq_zero_of_jumpToLatest hspans hpage hzero

/-- Where nothing is loaded, no event but a retry asks for newer messages. -/
theorem handle_newer_of_empty (hh : x.handle e = .ok (y, more)) (hzero : x.graph.size = 0)
    (hretry : e ≠ .retry .newer) (hidle : x.gate .newer = .idle) : y.gate .newer = .idle := by
  cases haccepts : x.window.state.accepts e with
  | false =>
    obtain ⟨rfl, -⟩ := handle_of_not_accepts haccepts hh
    exact hidle
  | true =>
    obtain ⟨t, ht, hwindow, -⟩ := handle_transition hh
    have hkept := (step_newer_of_empty haccepts hretry hzero ht).1
    have hbegun : (x.window.state.begun e).gate .newer = .idle :=
      WindowState.begun_gate_of_idle hidle
    rw [gate, hwindow]
    exact hkept.trans hbegun

/-- **One event keeps newer messages unasked for** where nothing is loaded. -/
theorem Unasked.handle (hx : Unasked (e :: queue) x) (hh : x.handle e = .ok (y, more)) :
    Unasked (more ++ queue) y := by
  have hbefore (hzero : y.graph.size = 0) : x.graph.size = 0 :=
    handle_size_eq_zero hx.exists_spans hx.pageSize hh hzero
  constructor
  · exact (handle_continues hh).exists_spans hx.exists_spans
  · rw [(handle_continues hh).config]
    exact hx.pageSize
  · intro hzero
    have hretry : e ≠ .retry .newer := by
      rintro rfl
      exact hx.queue (hbefore hzero) List.mem_cons_self
    exact handle_newer_of_empty hh (hbefore hzero) hretry (hx.gate (hbefore hzero))
  · intro hzero
    by_contra hfailed
    rcases handle_hasFailed hh (eq_true_of_ne_false hfailed) with hold | hpending
    · rw [hx.failure (hbefore hzero)] at hold
      cases hold
    · rw [hx.gate (hbefore hzero)] at hpending
      cases hpending
  · intro hzero hmem
    rcases List.mem_append.1 hmem with hmore | hqueue
    · rcases (handle_load hh).2 _ hmore with heq | heq <;> cases heq
    · exact hx.queue (hbefore hzero) (List.mem_cons_of_mem _ hqueue)

theorem Unasked.tell (ha : Unasked es a) (hb : a.tell es = .ok b) : Unasked [] b := by
  refine tell_induction (P := Unasked) ?_ ?_ ha hb
  · intro queue queue' x hperm hx
    exact { hx with queue := fun hzero hmem => hx.queue hzero (hperm.mem_iff.2 hmem) }
  · intro e queue x y more hh hx
    exact hx.handle hh

/-! ## What a move tells of a failed request -/

theorem perform_failure (s : Session) (t : Task) : (s.perform t).failure = s.failure := by
  unfold perform
  split
  · split <;> rfl
  · split
    · rw [report]
      split <;> rfl
    · rfl
  · dsimp only
    split
    · split <;> rfl
    · rfl

/-- What a move changes by itself of the failure that is remembered, and what the window is told of
it: nothing, or the failure is taken to be retried, or a result is heard. -/
inductive Recalls (s : Session) (m : Move) (a : Session) : List Event → Prop
  | nothing (es : List Event) : m ≠ .hearResult → a.failure = s.failure →
      (∀ d, .retry d ∉ es) → (∀ d r, .settled d r ∉ es) → .reset ∉ es → Recalls s m a es
  | retries (d : Direction) (f : FetchError) : m ≠ .hearResult → s.failure = some (d, f) →
      a.failure = none → Recalls s m a [.retry d]
  | hears (d : Direction) (r : FetchResult) (rest : List (Direction × FetchResult)) :
      m = .hearResult → s.results = (d, r) :: rest →
      a.failure = (if r.isLoaded && s.hasFailed d then none else s.failure) →
      Recalls s m a [.update, .settled d r]

theorem told_recalls (htold : s.told m = some (a, es)) : Recalls s m a es := by
  cases m with
  | input i =>
    have htold : s.toldBy i.action = some (a, es) := htold
    unfold toldBy at htold
    split at htold
    case h_6 =>
      split at htold
      · next d f hfailure =>
        cases htold
        exact .retries d f Move.noConfusion hfailure rfl
      · cases htold
        exact .nothing _ Move.noConfusion rfl (by simp) (by simp) (by simp)
    case h_7 =>
      obtain ⟨_, -, heq⟩ := Option.map_eq_some_iff.1 htold
      cases heq
      exact .nothing _ Move.noConfusion rfl (by simp) (by simp) (by simp)
    all_goals
      cases htold
      exact .nothing _ Move.noConfusion rfl (by simp) (by simp) (by simp)
  | perform n =>
    obtain ⟨t, -, heq⟩ := Option.map_eq_some_iff.1 htold
    cases heq
    exact .nothing _ Move.noConfusion (perform_failure _ t) (by simp) (by simp) (by simp)
  | hearResult =>
    rw [told] at htold
    split at htold
    · next d r results hresults =>
      cases htold
      refine .hears d r results rfl hresults ?_
      rw [forgiven]
      exact apply_ite Session.failure ..
    · cases htold
  | hearNews =>
    rw [told] at htold
    split at htold
    · obtain ⟨_, -, heq⟩ := Option.map_eq_some_iff.1 htold
      cases heq
      exact .nothing _ Move.noConfusion rfl (by simp) (by simp) (by simp)
    · cases htold
      exact .nothing _ Move.noConfusion rfl (by simp) (by simp) (by simp)
    · cases htold
  | _ =>
    cases htold
    exact .nothing _ Move.noConfusion rfl (by simp) (by simp) (by simp)

/-- By itself a move brings no failure about, and the window is told to ask again only in the
direction that failed last. -/
theorem told_failure (htold : s.told m = some (a, es)) :
    (a.failure = s.failure ∨ a.failure = none) ∧ ∀ d, .retry d ∈ es → s.hasFailed d = true := by
  cases told_recalls htold with
  | nothing _ _ hfailure hretry _ _ =>
    exact ⟨.inl hfailure, fun d hmem => absurd hmem (hretry d)⟩
  | retries d f _ hfailed hnone =>
    refine ⟨.inr hnone, fun d' hmem => ?_⟩
    cases List.mem_singleton.1 hmem
    simp [hasFailed, hfailed]
  | hears d r rest _ _ hfailure =>
    refine ⟨?_, by simp⟩
    rw [hfailure]
    split
    · exact .inr rfl
    · exact .inl rfl

/-- What a move changes by itself asks for nothing either. -/
theorem Unasked.change (hs : Unasked [] s) (htold : s.told m = some (a, es)) : Unasked es a := by
  have hgrows := (told_change htold).grows
  have hbefore (hzero : a.graph.size = 0) : s.graph.size = 0 := by
    have hle : s.graph.size ≤ a.graph.size := hgrows.size_loaded_le hs.exists_spans
    omega
  constructor
  · exact hgrows.exists_spans hs.exists_spans
  · rw [hgrows.config]
    exact hs.pageSize
  · intro hzero
    have hidle := hs.gate (hbefore hzero)
    rw [Session.gate, told_state htold]
    exact hidle
  · intro hzero
    rcases (told_failure htold).1 with hsame | hnone
    · rw [hasFailed, hsame]
      exact hs.failure (hbefore hzero)
    · rw [hasFailed, hnone]
      rfl
  · intro hzero hmem
    have hfailed := (told_failure htold).2 .newer hmem
    rw [hs.failure (hbefore hzero)] at hfailed
    cases hfailed

/-! ## Moves where nothing is loaded -/

/-- Between moves, where nothing is loaded, no request for newer messages is under way either. -/
structure Unanswered (s : Session) : Prop extends Unasked [] s where
  pageTasks : s.graph.size = 0 → s.pageTasks .newer = 0
  results : s.graph.size = 0 → ∀ r, (.newer, r) ∉ s.results

/-- A move leaves nothing loaded only where nothing was. -/
theorem Turn.size_eq_zero (ht : Turn s m s') (hspans : ∃ a b, s.feed.Spans a b)
    (hpage : 0 < s.feed.config.pageSize) (hzero : s'.graph.size = 0) : s.graph.size = 0 := by
  have hgrown (hgrows : s.feed.Grows s'.feed) : s.graph.size = 0 := by
    have hle : s.graph.size ≤ s'.graph.size := hgrows.size_loaded_le hspans
    omega
  cases ht with
  | passes _ _ _ hp => exact hgrown hp.feed
  | replaces _ _ hreplaced hasks =>
    rw [graph, hasks.feed, feed_begun_of_replaces (Bool.and_eq_true_iff.1 hreplaced).2] at hzero
    exact Feed.size_loaded_eq_zero_of_jumpToLatest hspans hpage hzero
  | answers d _ _ _ ha => exact hgrown (ha.feed ▸ s.feed.grows_settle d)
  | hears d r results s₁ _ _ hbefore hasks =>
    refine hgrown ?_
    rw [hasks.feed, feed_begun_of_ne Event.noConfusion]
    exact (beforeSettling_passes hbefore).feed

/-- A request is made only through a gate that it closes. -/
theorem pageTasks_eq_of_idle (hk : Keeps d s s' ∨ Closes d s s') (hidle : s'.gate d = .idle) :
    s'.pageTasks d = s.pageTasks d := by
  rcases hk with hk | hc
  · exact hk.pageTasks
  · have hpending := hc.pending
    rw [hidle] at hpending
    cases hpending

/-- A move that leaves a gate open asks for no page through it, unless it has a result heard. -/
theorem Turn.pageTasks_le (ht : Turn s m s') (hidle : s'.gate d = .idle)
    (hresults : ∀ r, (d, r) ∉ s.results) : s'.pageTasks d ≤ s.pageTasks d := by
  cases ht with
  | passes _ _ _ hp => exact (pageTasks_eq_of_idle (hp.gate d) hidle).le
  | replaces _ _ _ hasks =>
    have hsame := pageTasks_eq_of_idle (hasks.gate d) hidle
    rw [pageTasks_begun] at hsame
    exact hsame.le
  | answers e _ _ _ ha =>
    have hcount := ha.pageTasks d
    omega
  | hears e r results s₁ _ hqueue hbefore hasks =>
    have hpasses := beforeSettling_passes hbefore
    have hne : e ≠ d := by
      rintro rfl
      exact hresults r (by simp [hqueue])
    have hsame := pageTasks_eq_of_idle (hasks.gate d) hidle
    rw [pageTasks_begun] at hsame
    -- the gate was open before the window was told of the other direction's result
    have hopen : s₁.gate d = .idle := by
      rcases hasks.gate d with hk | hc
      · have hgate := hk.gate
        rw [gate_begun_settled, if_neg fun heq => hne heq.1] at hgate
        rw [← hgate, hidle]
      · have hgate := hc.was_idle
        rw [gate_begun_settled, if_neg fun heq => hne heq.1] at hgate
        exact hgate
    have hearlier := pageTasks_eq_of_idle (hpasses.gate d) hopen
    exact (hsame.trans hearlier).le

/-- No result of a direction comes in where no request is under way. -/
theorem Turn.results (ht : Turn s m s') (htasks : s.pageTasks d = 0)
    (hresults : ∀ r, (d, r) ∉ s.results) : ∀ r, (d, r) ∉ s'.results := by
  intro r hr
  cases ht with
  | passes _ _ _ hp =>
    rw [hp.results] at hr
    exact hresults r hr
  | replaces _ _ _ hasks =>
    rw [hasks.results, results_begun] at hr
    exact hresults r hr
  | answers e _ _ _ ha =>
    rw [ha.results, List.mem_append] at hr
    rcases hr with hr | hr
    · exact hresults r hr
    · have hcount := ha.pageTasks d
      have hne : e ≠ d := by
        intro heq
        rw [if_pos heq.symm] at hcount
        omega
      simp [hne] at hr
  | hears e r' results s₁ _ hqueue hbefore hasks =>
    rw [hasks.results, results_begun, (beforeSettling_passes hbefore).results] at hr
    exact hresults r (by simp [hqueue, hr])

/-- **One move keeps newer messages unasked for** where nothing is loaded. -/
theorem Unanswered.move (hs : Unanswered s) (hm : s.move m = some s') : Unanswered s' := by
  obtain ⟨a, es, b, htold, htell, rfl⟩ := exists_told hm
  obtain ⟨tasks, started, heq⟩ := b.exists_settleMove_eq m
  have hturn := move_turn hm
  have hb := (hs.toUnasked.change htold).tell htell
  have hbefore (hzero : (b.settleMove m).graph.size = 0) : s.graph.size = 0 :=
    hturn.size_eq_zero hs.exists_spans hs.pageSize hzero
  have hafter : Unasked [] (b.settleMove m) := by
    rw [heq]
    exact ⟨hb.exists_spans, hb.pageSize, hb.gate, hb.failure, hb.queue⟩
  refine { hafter with pageTasks := ?_, results := ?_ }
  · intro hzero
    have hle := hturn.pageTasks_le (hafter.gate hzero) (hs.results (hbefore hzero))
    have hnone := hs.pageTasks (hbefore hzero)
    omega
  · intro hzero
    exact hturn.results (hs.pageTasks (hbefore hzero)) (hs.results (hbefore hzero))

/-! ## Runs from a start -/

/-- A session as a start leaves it: it was just opened, no request has failed, and a page holds one
message at least. -/
structure Started (s : Session) : Prop extends Opened s where
  failure : s.failure = none
  pageSize : 0 < s.feed.config.pageSize

/-- A start gives such a session. -/
theorem started_ofHistory {o : Options} {remote : Graph} {target : Option MessageIndex}
    {now : Instant} (hs : ofHistory o remote target now = .ok s) : Started s := by
  have hopened := opened_ofHistory hs
  obtain ⟨⟨feed, n⟩, hfeed, hs⟩ := Checked.bind_eq_ok.1 hs
  cases hs
  have hconfig : feed.config = o.feedConfig := by
    cases target with
    | none =>
      cases hfeed
      rfl
    | some target =>
      obtain ⟨stop, -, hcopy⟩ := Checked.bind_eq_ok.1 hfeed
      cases hcopy
      rfl
  refine { hopened with failure := rfl, pageSize := ?_ }
  rw [hconfig]
  exact Nat.le_max_right _ _

theorem Started.unanswered (ho : Started s) : Unanswered s where
  exists_spans := ho.tracks.exists_spans
  pageSize := ho.pageSize
  gate := fun _ => by
    rw [Session.gate, ho.state]
    rfl
  failure := fun _ => by
    rw [hasFailed, ho.failure]
    rfl
  queue := fun _ => List.not_mem_nil
  pageTasks := fun _ => by
    rw [Session.pageTasks, ho.tasks]
    rfl
  results := fun _ r hr => by
    rw [ho.results] at hr
    cases hr

theorem Run.unanswered (hrun : Run h s) (hstart : Started (origin h s)) : Unanswered s := by
  induction hrun with
  | opened ho => exact hstart.unanswered
  | move _ hm ih => exact (ih hstart).move hm

/-! ## What the window is told of the end -/

/-- What the window was told of the end of the history, or will be told, is true. -/
structure Informed (s : Session) : Prop where
  results : (.newer, .loaded .exhausted) ∈ s.results → s.feed.ReachesEnd
  gate : s.gate .newer = .exhausted → s.feed.ReachesEnd

/-- Where a page request is under way that tells that nothing newer is left, its answer comes with
the end of the history. -/
theorem Unanswered.catchesUp (hs : Unanswered s) (ha : Answers d s s')
    (hanswer : s.answer? m = some (d, (s.feed.settle d).2))
    (hnew : (.newer, .loaded .exhausted) ∈ ((s.feed.settle d).2.toOption.map (d, ·)).toList) :
    s.catchesUp m = true := by
  obtain ⟨hsettle, rfl⟩ : (s.feed.settle d).2 = .ok (.loaded .exhausted) ∧ d = .newer := by
    simpa [toOption_eq_some] using hnew
  have hcount := ha.pageTasks .newer
  have hsome : s.feed.loaded.isEmpty = false := by
    by_contra hempty
    have hnil := List.isEmpty_iff.1 (eq_true_of_ne_false hempty)
    have hzero : s.graph.size = 0 := congrArg List.length hnil
    rw [hs.pageTasks hzero, if_pos rfl] at hcount
    omega
  rw [hsettle] at hanswer
  exact catchesUp_iff.2 (.inr ⟨_, _, hanswer, Feed.catchesUp_newer_iff.2 ⟨rfl, hsome⟩⟩)

/-- **One move keeps true what the window is told** of the end of the history. -/
theorem Informed.move (hi : Informed s) (hs : Unanswered s) (hm : s.move m = some s') :
    Informed s' := by
  have hiff := move_reachesEnd_iff hs.exists_spans hm
  have hkept (hend : s.feed.ReachesEnd) : s'.feed.ReachesEnd := hiff.2 (.inl hend)
  cases move_turn hm with
  | passes _ _ _ hp =>
    constructor
    · intro hr
      rw [hp.results] at hr
      exact hkept (hi.results hr)
    · intro hgate
      exact hkept (hi.gate (exhausted_of_keeps_or_closes (hp.gate .newer) hgate))
  | replaces _ _ hreplaced hasks =>
    constructor
    · intro hr
      rw [hasks.results, results_begun] at hr
      exact hkept (hi.results hr)
    · intro hgate
      -- an exchange opens the gate
      have hr : s.replaces .jumpToLatest = true := (Bool.and_eq_true_iff.1 hreplaced).2
      have hopen := exhausted_of_keeps_or_closes (hasks.gate .newer) hgate
      rw [Session.gate, (state_begun_of_replaces hr).1] at hopen
      cases hopen
  | answers d _ hanswer _ ha =>
    constructor
    · intro hr
      rw [ha.results, List.mem_append] at hr
      rcases hr with hold | hnew
      · exact hkept (hi.results hold)
      · exact hiff.2 (.inr (hs.catchesUp ha hanswer hnew))
    · intro hgate
      have hsame : s'.gate .newer = s.gate .newer := by rw [Session.gate, ha.window, Session.gate]
      exact hkept (hi.gate (hsame ▸ hgate))
  | hears d r results s₁ _ hqueue hbefore hasks =>
    have hpasses := beforeSettling_passes hbefore
    constructor
    · intro hr
      rw [hasks.results, results_begun, hpasses.results] at hr
      exact hkept (hi.results (by simp [hqueue, hr]))
    · intro hgate
      have hclosed := exhausted_of_keeps_or_closes (hasks.gate .newer) hgate
      rw [gate_begun_settled] at hclosed
      split at hclosed
      · next hsettles =>
        obtain ⟨rfl, -⟩ := hsettles
        rw [eq_exhausted_of_gate hclosed] at hqueue
        exact hkept (hi.results (by simp [hqueue]))
      · have hearlier := exhausted_of_keeps_or_closes (hpasses.gate .newer) hclosed
        exact hkept (hi.gate hearlier)

theorem Started.informed (ho : Started s) : Informed s where
  results := fun hr => by
    rw [ho.results] at hr
    cases hr
  gate := fun hgate => by
    rw [Session.gate, ho.state] at hgate
    cases hgate

theorem Run.informed (hrun : Run h s) (hstart : Started (origin h s)) : Informed s := by
  induction hrun with
  | opened ho => exact hstart.informed
  | move hrun hm ih => exact (ih hstart).move (hrun.unanswered hstart) hm

/-- A loaded part at the end of the history stays there, whatever happens. -/
theorem reachesEnd_replay {ms : List Move} (hrun : Run h s) (hend : s.feed.ReachesEnd)
    (hreplay : replay h s ms = some (h', s')) : s'.feed.ReachesEnd := by
  induction ms generalizing h s with
  | nil =>
    cases hreplay
    exact hend
  | cons m ms ih =>
    obtain ⟨s₁, hm, hrest⟩ := Option.bind_eq_some_iff.1 hreplay
    have hiff := move_reachesEnd_iff hrun.tracks.exists_spans hm
    exact ih (hrun.move hm) (hiff.2 (.inl hend)) hrest

/-- **A window that has come to the end misses no message.** In every run from a start, when the
newer gate is closed for good, some messages are loaded, and the newest of them is the newest of
all. Whatever happens from then on, this stays so, and every message that somebody writes or the
reader sends joins the loaded part at once. -/
theorem exhausted_live (hrun : Run h s) (hstart : Started (origin h s))
    (hgate : s.gate .newer = .exhausted) :
    0 < s.graph.size ∧ s.graph.largest? = s.feed.remote.largest? ∧
      ∀ ms h' s', replay h s ms = some (h', s') →
        s'.graph.largest? = s'.feed.remote.largest? ∧ s'.feed.Live := by
  have hend := (hrun.informed hstart).gate hgate
  refine ⟨?_, hend, ?_⟩
  · by_contra hnone
    have hzero : s.graph.size = 0 := by omega
    have hidle := (hrun.unanswered hstart).gate hzero
    rw [hidle] at hgate
    cases hgate
  · intro ms h' s' hreplay
    have hlater := reachesEnd_replay hrun hend hreplay
    exact ⟨hlater, hlater.live (run_replay hrun hreplay).tracks.exists_spans⟩

theorem Run.opened_origin (hrun : Run h s) : Opened (origin h s) := by
  induction hrun with
  | opened ho => exact ho
  | move _ _ ih => exact ih

/-- A channel of five messages is loaded up to its end. -/
theorem exhausted_live_page : ∃ h s, Run h s ∧ Started (origin h s) ∧
    s.gate .newer = .exhausted ∧ 0 < s.graph.size ∧
      s.graph.largest? = s.feed.remote.largest? ∧
        ∀ ms h' s', replay h s ms = some (h', s') →
          s'.graph.largest? = s'.feed.remote.largest? ∧ s'.feed.Live := by
  obtain ⟨h, s, hrun, hs⟩ := exists_run_of_trial { messages := 5 }
    [.mount 10, .perform 0, .hearResult]
    (fun h s => decide ((origin h s).failure = none ∧ 0 < (origin h s).feed.config.pageSize ∧
      s.gate .newer = .exhausted)) (by decide +kernel)
  obtain ⟨hfailure, hpage, hgate⟩ := of_decide_eq_true hs
  have hstart : Started (origin h s) :=
    { hrun.opened_origin with failure := hfailure, pageSize := hpage }
  exact ⟨h, s, hrun, hstart, hgate, exhausted_live hrun hstart hgate⟩

end Session

end Scrollback
