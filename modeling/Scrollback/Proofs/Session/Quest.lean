import Scrollback.Proofs.Feed.Way
import Scrollback.Proofs.Session.Coverage
import Scrollback.Proofs.Session.LiveEnd
/-!
# The quest for the target

A window is opened for a target that need not be loaded, nor even be written yet. It does not ask
for the target; it asks for pages whenever it looks at the loaded ends, and the direction in which
the target lies is one reason to ask. This is enough: as long as the target is not reached, the
gate in its direction never stands idle once the window has seen what is loaded. That direction is
always that of older messages. As long as no request fails, none is lost on the way, and the gate is
not closed for good before the target is loaded. What would spoil this is an exchange of the loaded
part, which makes answers come too late; but a window whose messages are exchanged gives the target
up.

## Main definitions

* `Session.Seeks` — the gate in the direction of the target does not stand idle.

## Main statements

* `Session.Seeks.handle`, `Session.Seeks.told` — one event, and what a move changes by itself.
* `Session.Run.reached_of_exchanged` — an exchange of the loaded part gives the target up.
* `Session.Run.reachesStart` — before that, the end of older history is no false word.
* `Session.target_reached` — at rest, a window has gone to every target that was written.
-/

namespace Scrollback

namespace Session

variable {s s' x y a b : Session} {m : Move} {d : Direction} {e : Event} {es queue more : List Event}
  {h : List (Session × Move)} {rows : Nat} {target i : MessageIndex}

/-! ## The gate in the direction of the target -/

/-- A window that knows of all that is loaded, and has not reached its target, has asked for a page
in the direction of it, or knows that there is none; unless the loaded part was exchanged and it is
still to be told. -/
def Seeks (queue : List Event) (s : Session) : Prop :=
  s.Seen → .reset ∉ queue → s.window.state.targetReached = false →
    ∀ target d, s.window.target = some target → s.graph.wayTo? target = some d → s.gate d ≠ .idle

theorem handle_reached (hreached : x.window.state.targetReached = true)
    (hh : x.handle e = .ok (y, more)) : y.window.state.targetReached = true := by
  obtain ⟨t, ht, hwindow, -⟩ := handle_transition hh
  rw [hwindow]
  exact step_reached hreached ht

/-- **One event keeps the gate from standing idle**: if the window looks it asks, and if not, there
was nothing new to it. -/
theorem Seeks.handle (hx : Seeks (e :: queue) x) (hattends : Attends rows (e :: queue) x)
    (hh : x.handle e = .ok (y, more)) : Seeks (more ++ queue) y := by
  intro hy hreset haway target d htarget hway
  have hkeys := hattends.handle_keys hh hy hreset
  have haccepts := accepts_of_handle hh hy.mounted
  obtain ⟨t, ht, hwindow, -⟩ := handle_transition hh
  have hway : x.graph.wayTo? target = some d := (Graph.wayTo?_congr hkeys target).symm.trans hway
  rw [hwindow] at htarget
  have haway' : t.state.targetReached = false := by rwa [hwindow] at haway
  rw [gate, hwindow]
  cases hexamines : x.window.state.examines (x.window.inputs x.graph x.unread x.now) e with
  | true => exact step_toward haccepts hexamines htarget hway ht haway'
  | false =>
    obtain ⟨hseen, hreset', hfailed⟩ := hattends.unexamined hh hy hreset hexamines
    have hbefore : x.window.state.targetReached = false := by
      by_contra hreached
      rw [step_reached (eq_true_of_ne_false hreached) ht] at haway'
      cases haway'
    exact step_ne_idle haccepts hexamines hfailed ht (hx hseen hreset' hbefore target d htarget hway)

theorem Seeks.told (hs : Seeks [] s) (hattends : Attends rows [] s)
    (htold : s.told m = some (a, es)) : Seeks es a := by
  intro ha _ haway target d htarget hway
  obtain ⟨hkeys, hseen⟩ := hattends.told_keys htold ha
  obtain ⟨viewport, focused, hwindow⟩ := told_window htold
  rw [hwindow] at htarget haway
  rw [gate, hwindow]
  exact hs hseen List.not_mem_nil haway target d htarget
    ((Graph.wayTo?_congr hkeys target).symm.trans hway)

/-- A move in which no request is answered by a failure keeps the gate from standing idle. -/
theorem Seeks.move (hs : Seeks [] s) (hattends : Attends rows [] s) (hanswer : s.refuses m = false)
    (hm : s.move m = some s') : Seeks [] s' := by
  obtain ⟨a, es, b, htold, htell, rfl⟩ := exists_told hm
  obtain ⟨tasks, started, heq⟩ := b.exists_settleMove_eq m
  have hb : ∃ rows, Attends rows [] b ∧ Seeks [] b := by
    refine tell_induction (P := fun queue x => ∃ rows, Attends rows queue x ∧ Seeks queue x)
      ?_ ?_ ⟨rows, hattends.told htold hanswer, hs.told hattends htold⟩ htell
    · rintro queue queue' x hperm ⟨rows, hx, hseeks⟩
      exact ⟨rows, hx.perm hperm, fun hseen hreset => hseeks hseen fun hmem =>
        hreset (hperm.mem_iff.1 hmem)⟩
    · rintro e queue x y more hh ⟨rows, hx, hseeks⟩
      exact ⟨_, hx.handle hh, hseeks.handle hx hh⟩
  obtain ⟨_, -, hseeks⟩ := hb
  rw [heq]
  exact fun hseen => hseeks ⟨hseen.mounted, hseen.size⟩

theorem Opened.seeks (ho : Opened s) : Seeks [] s := by
  intro hseen
  have hmounted := hseen.mounted
  rw [ho.state] at hmounted
  cases hmounted

theorem Run.seeks (hrun : Run h s) (hanswers : ∀ p ∈ h, p.1.refuses p.2 = false) : Seeks [] s := by
  induction hrun with
  | opened ho => exact ho.seeks
  | move hrun hm ih =>
    obtain ⟨hlast, hbefore⟩ := List.forall_mem_cons.1 hanswers
    exact (ih hbefore).move (hrun.attends hbefore) hlast hm

/-! ## An exchange gives the target up -/

theorem move_reached (hreached : s.window.state.targetReached = true) (hm : s.move m = some s') :
    s'.window.state.targetReached = true := by
  obtain ⟨a, es, b, htold, htell, rfl⟩ := exists_told hm
  obtain ⟨tasks, started, heq⟩ := b.exists_settleMove_eq m
  have ha : a.window.state.targetReached = true := by rwa [told_state htold]
  have hb : b.window.state.targetReached = true :=
    tell_induction (P := fun _ x => x.window.state.targetReached = true) (fun _ hx => hx)
      (fun hh hx => handle_reached hx hh) ha htell
  rw [heq]
  exact hb

/-- A window whose messages are exchanged stays on screen. -/
theorem isMounted_of_replaces (hr : x.replaces e = true) (hh : x.handle e = .ok (y, more)) :
    y.window.state.isMounted = true := by
  obtain ⟨rfl, haccepts, -⟩ := replaces_iff.1 hr
  obtain ⟨hasks, -⟩ := handle_of_replaces hr hh
  obtain ⟨htorn, hscroll⟩ :=
    WindowState.isMounted_iff.1 (WindowState.isMounted_of_accepts haccepts rfl)
  have htorn' := hasks.tornDown
  have hscroll' := hasks.scroll
  rw [tornDown_begun Event.noConfusion, tornDown_begun Event.noConfusion] at htorn'
  rw [scroll_begun, scroll_begun] at hscroll'
  exact WindowState.isMounted_iff.2 ⟨htorn'.trans htorn, hscroll' hscroll⟩

/-- The reset that follows from a jump with an exchange is heard, and gives the target up. -/
theorem dispatch_exchange_reached (hr : s.replaces .jumpToLatest = true)
    (hs : s.dispatch .jumpToLatest = .ok s') : s'.window.state.targetReached = true := by
  have hlast : ([] : List Event) = [.jumpToLatest] ∧ s' = s ∨
      (∃ rest, ([] : List Event) = .reset :: rest ∧ s'.window.state.isMounted = true) ∨
      s'.window.state.targetReached = true := by
    refine dispatch_induction (P := fun queue x => queue = [.jumpToLatest] ∧ x = s ∨
      (∃ rest, queue = .reset :: rest ∧ x.window.state.isMounted = true) ∨
      x.window.state.targetReached = true) ?_ (.inl ⟨rfl, rfl⟩) hs
    rintro e rest x y more hh (⟨hqueue, rfl⟩ | ⟨rest', hqueue, hmounted⟩ | hreached)
    · cases hqueue
      obtain ⟨-, n, rfl, -⟩ := handle_of_replaces hr hh
      exact .inr (.inl ⟨_, rfl, isMounted_of_replaces hr hh⟩)
    · cases hqueue
      obtain ⟨t, ht, hwindow, -⟩ := handle_transition hh
      refine .inr (.inr ?_)
      rw [hwindow]
      exact step_reset_reached (WindowState.accepts_of_isMounted hmounted _) ht
    · exact .inr (.inr (handle_reached hreached hh))
  rcases hlast with ⟨hqueue, -⟩ | ⟨_, hqueue, -⟩ | hreached
  · cases hqueue
  · cases hqueue
  · exact hreached

theorem move_exchange_reached (hr : s.replacedBy m = true) (hm : s.move m = some s') :
    s'.window.state.targetReached = true := by
  obtain ⟨hjumps, hreplaces⟩ := Bool.and_eq_true_iff.1 hr
  obtain ⟨a, es, b, htold, htell, rfl⟩ := exists_told hm
  obtain ⟨tasks, started, heq⟩ := b.exists_settleMove_eq m
  rw [told_of_jumps hjumps] at htold
  cases htold
  rw [tell_singleton] at htell
  have hb := dispatch_exchange_reached hreplaces htell
  rw [heq]
  exact hb

/-- **A window whose messages were exchanged has given its target up.** -/
theorem Run.reached_of_exchanged (hrun : Run h s) (hex : ∃ p ∈ h, p.1.replacedBy p.2 = true) :
    s.window.state.targetReached = true := by
  induction hrun with
  | opened _ =>
    obtain ⟨p, hp, -⟩ := hex
    cases hp
  | move _ hm ih =>
    obtain ⟨p, hp, hp'⟩ := hex
    rcases List.mem_cons.1 hp with rfl | hbefore
    · exact move_exchange_reached hp' hm
    · exact move_reached (ih ⟨p, hbefore, hp'⟩) hm

/-- As long as nothing is exchanged, all results in the queue came in since the last exchange, and
no word on the end of older history is out of date. -/
theorem Run.not_misled (hrun : Run h s) (hnone : ∀ p ∈ h, p.1.replacedBy p.2 = false) :
    s.results.length ≤ served h ∧ misled h = false := by
  induction hrun with
  | opened ho =>
    rw [ho.results]
    exact ⟨Nat.le_refl 0, rfl⟩
  | @move h s s' m _ hm ih =>
    obtain ⟨hlast, hbefore⟩ := List.forall_mem_cons.1 hnone
    obtain ⟨hle, hheard⟩ := ih hbefore
    have hlast : s.replacedBy m = false := hlast
    cases move_turn hm with
    | passes hhear hanswer hreplaced hp =>
      rw [served_cons_of_passes hanswer hreplaced, misled_cons_of_not (hearsEnd_of_ne hhear),
        hp.results]
      exact ⟨hle, hheard⟩
    | replaces _ _ hreplaced _ =>
      rw [hlast] at hreplaced
      cases hreplaced
    | answers d hhear hanswer hreplaced ha =>
      rw [misled_cons_of_not (hearsEnd_of_ne hhear), served, hlast, if_neg Bool.false_ne_true,
        hanswer, ha.results, List.length_append]
      refine ⟨?_, hheard⟩
      cases (s.feed.settle d).2 with
      | ok r => exact Nat.succ_le_succ hle
      | error fault => exact hle
    | hears d r results s₁ hhear hresults hbefore hasks =>
      subst hhear
      rw [hresults, List.length_cons] at hle
      rw [served_cons_of_passes rfl hlast, hasks.results, results_begun,
        (beforeSettling_passes hbefore).results]
      refine ⟨Nat.le_of_succ_le hle, ?_⟩
      rw [misled]
      split
      · rw [hresults, decide_eq_false_iff_not, List.length_cons]
        omega
      · exact hheard

/-- **Before the target is reached, the end of older history is no false word.** -/
theorem Run.reachesStart (hrun : Run h s) (haway : s.window.state.targetReached = false)
    (hgate : s.gate .older = .exhausted) : s.feed.ReachesStart := by
  refine hrun.sound.gate hgate (hrun.not_misled fun p hp => ?_).2
  by_contra hex
  rw [hrun.reached_of_exchanged ⟨p, hp, eq_true_of_ne_false hex⟩] at haway
  cases haway

/-! ## On which side the target lies -/

/-- What a move changes by itself leaves what is loaded up to the place of a message. -/
theorem Change.reachesUpTo (hc : Change s m a es) (hs : s.feed.ReachesUpTo i)
    (hspans : ∃ a b, s.feed.Spans a b) (hpage : 0 < s.feed.config.pageSize) :
    a.feed.ReachesUpTo i := by
  cases hc with
  | nothing es _ _ hfeed => exact hfeed ▸ hs
  | answers d _ _ hfeed =>
    rw [hfeed]
    exact hs.settle hspans hpage d
  | acknowledges sent _ _ hfeed =>
    rw [hfeed]
    exact hs.acknowledge hspans sent
  | announces msg i _ _ happend => exact hs.append hspans happend
  | adds es msg i grown _ _ happend hr hl => exact (hs.append hspans happend).congr hr hl
  | hears i _ _ hfeed => exact hfeed ▸ hs

/-- So does a move; a jump goes to the end of the history. -/
theorem move_reachesUpTo (hs : s.feed.ReachesUpTo i) (hspans : ∃ a b, s.feed.Spans a b)
    (hpage : 0 < s.feed.config.pageSize) (hm : s.move m = some s') : s'.feed.ReachesUpTo i := by
  obtain ⟨a, es, b, htold, htell, rfl⟩ := exists_told hm
  obtain ⟨tasks, started, heq⟩ := b.exists_settleMove_eq m
  have hb : b.feed.ReachesUpTo i := by
    rcases jumps_cases htold with ⟨-, rfl, rfl⟩ | ⟨-, hjump⟩
    · rw [tell_singleton] at htell
      rw [(dispatch_asks htell).feed]
      cases haccepts : a.window.state.accepts .jumpToLatest with
      | true =>
        rw [feed_begun haccepts, if_pos rfl]
        exact .inr (.inl ((Feed.reachesEnd_jumpToLatest hspans).2 (.inr hpage)))
      | false =>
        rw [begun_of_not_accepts haccepts]
        exact hs
    · rw [tell_feed hjump htell]
      exact (told_change htold).reachesUpTo hs hspans hpage
  rw [heq]
  exact hb

theorem Run.reachesUpTo (hrun : Run h s) (hpage : 0 < s.feed.config.pageSize)
    (horigin : (origin h s).feed.ReachesUpTo i) : s.feed.ReachesUpTo i := by
  induction hrun with
  | opened _ => exact horigin
  | move hrun hm ih =>
    rw [(move_frame hm).2.2] at hpage
    exact move_reachesUpTo (ih hpage horigin) hrun.tracks.exists_spans hpage hm

/-- A session that is opened for a target has it in its window, and is loaded up to its place. -/
theorem reachesUpTo_ofHistory {o : Options} {remote : Graph} {now : Instant}
    (hs : ofHistory o remote (some target) now = .ok s) :
    s.window.target = some target ∧ s.feed.ReachesUpTo target := by
  obtain ⟨⟨feed, n⟩, hfeed, hs⟩ := Checked.bind_eq_ok.1 hs
  cases hs
  exact ⟨rfl, Feed.reachesUpTo_loadAround rfl hfeed⟩

/-- Where no request fails, none is lost. -/
theorem lost_eq_zero (hanswers : ∀ p ∈ h, p.1.fails p.2 = false) (d : Direction) : lost h d = 0 := by
  refine List.countP_eq_zero.2 fun p hp hloses => ?_
  have hfails := hanswers p hp
  rw [loses] at hloses
  split at hloses
  · next heq =>
    rw [fails, heq] at hfails
    cases hfails
  · cases hloses

/-- Where no request was lost and none is under way, the window waits for none. -/
theorem Run.ne_pending (hrun : Run h s) (hmounted : s.window.state.isMounted = true)
    (hlost : lost h d = 0) (hunderway : s.underway d = 0) : s.gate d ≠ .pending := by
  intro hpending
  have haccounted := hrun.accounted d
  have hcount := haccounted.balanced.count
  have hle := haccounted.ignored_le (WindowState.isMounted_iff.1 hmounted).1
  rw [hunderway, awaited_of_pending hpending] at hcount
  omega

/-! ## At rest -/

/-- **No target is given up for lost.** In every run of a session that was opened for a target, and
in which no page request has failed: as soon as no request is under way and nothing waits, and as
long as news is taken, a window on screen has reached the target if the history holds it, whether it
was there in the beginning or was written since. -/
theorem target_reached {o : Options} {remote : Graph} {now : Instant} (hrun : Run h s)
    (hopened : ofHistory o remote (some target) now = .ok (origin h s))
    (hanswers : ∀ p ∈ h, p.1.fails p.2 = false) (hmounted : s.window.state.isMounted = true)
    (hopen : s.closed = false) (hresults : s.results = []) (hnews : s.news = [])
    (htasks : ∀ d, s.pageTasks d = 0) (hwritten : s.feed.remote.contains target = true) :
    s.window.state.targetReached = true := by
  by_contra hreached
  have haway := eq_false_of_ne_true hreached
  obtain ⟨-, hkept, hconfig⟩ := hrun.frame
  obtain ⟨htarget, horigin⟩ := reachesUpTo_ofHistory hopened
  have htarget : s.window.target = some target := hkept.trans htarget
  have hpage : 0 < s.feed.config.pageSize := hconfig ▸ (started_ofHistory hopened).pageSize
  have hseen : s.Seen := ⟨hmounted, hrun.prevSize_eq hmounted hopen hresults hnews⟩
  have hnone : ∀ p ∈ h, p.1.refuses p.2 = false := fun p hp => refuses_of_fails (hanswers p hp)
  -- the target is not loaded, and lies toward older messages
  have hnot : s.graph.contains target = false := by
    by_contra hloaded
    exact hreached ((hrun.attends hnone).arrived hseen List.not_mem_nil target htarget
      (eq_true_of_ne_false hloaded))
  obtain ⟨d, hway⟩ := Feed.exists_wayTo? hrun.tracks.exists_spans hwritten hnot
  obtain rfl : d = .older := by
    cases d with
    | older => rfl
    | newer => exact absurd hway ((hrun.reachesUpTo hpage horigin).wayTo?_ne hwritten)
  -- its gate is not idle, but no page is on its way and some are left
  have hidle := hrun.seeks hnone hseen List.not_mem_nil haway target .older htarget hway
  cases hgate : s.gate .older with
  | idle => exact hidle hgate
  | pending =>
    have hunderway : s.underway .older = 0 := by
      rw [underway, htasks, hresults]
      rfl
    exact hrun.ne_pending hmounted (lost_eq_zero hanswers .older) hunderway hgate
  | exhausted => exact (hrun.reachesStart haway hgate).wayTo?_ne hwritten hway

/-- A history with gaps, which holds the traces of two deleted messages. -/
def withGaps : Graph := (Graph.empty.insert ⟨2, by decide⟩ .deleted).insert ⟨4, by decide⟩ .deleted

/-- A window is opened for the message that is to be written next. The page around it is empty; the
reader writes it, and the pages that the window asks for bring it in. -/
theorem target_reached_written : ∃ h s, Run h s ∧ (origin h s).graph.size = 0 ∧
    (origin h s).feed.remote.contains ⟨5, by decide⟩ = false ∧
      s.window.target = some ⟨5, by decide⟩ ∧ s.window.state.targetReached = true := by
  obtain ⟨h, s, hrun, hopened, hs⟩ := exists_run_of_history { pageSize := 1 } withGaps
    (some ⟨5, by decide⟩) ⟨⟨2025, 6, 1⟩, 0, 0⟩
    [.mount 10, .input (.key (.char 's') false), .perform 1, .hearResult, .perform 0, .hearResult,
      .perform 0, .hearResult, .perform 0, .hearResult]
    (fun h s => decide ((origin h s).graph.size = 0 ∧
      (origin h s).feed.remote.contains ⟨5, by decide⟩ = false ∧
      s.window.target = some ⟨5, by decide⟩ ∧ (∀ p ∈ h, p.1.fails p.2 = false) ∧
      s.window.state.isMounted = true ∧ s.closed = false ∧ s.results = [] ∧ s.news = [] ∧
      s.pageTasks .older = 0 ∧ s.pageTasks .newer = 0 ∧
      s.feed.remote.contains ⟨5, by decide⟩ = true)) (by decide +kernel)
  obtain ⟨hempty, hunwritten, htarget, hanswers, hmounted, hopen, hresults, hnews, holder, hnewer,
    hwritten⟩ := of_decide_eq_true hs
  have htasks (d : Direction) : s.pageTasks d = 0 := by
    cases d
    · exact holder
    · exact hnewer
  exact ⟨h, s, hrun, hempty, hunwritten, htarget, target_reached hrun hopened hanswers hmounted
    hopen hresults hnews htasks hwritten⟩

end Session

end Scrollback
