import Scrollback.Proofs.Feed.Settlement
import Scrollback.Proofs.Session.Faultless
import Scrollback.Proofs.Session.Run
import Scrollback.Proofs.Window.Ends
/-!
# A session that is left alone comes to rest

A page that comes in may make the window ask for more of them, in both directions, and so on. The
chain ends: every step of it uses up something of which there is only so much. What is left to do is
measured by a number that falls with every request that settles and with every result that is heard,
no matter in what order they settle, which of them fail, and what else happens in between as long as
the reader does nothing and no message comes in.

## Main definitions

* `Session.work` — how much is left to do at most.
* `Session.Proceeds` — a page request settles in any way, or a result is heard.
* `Session.Unattended` — a course without the reader and without new messages.
* `Session.AtRest` — no page request is under way and no result waits.

## Main statements

* `Session.work_handle_le` — an event in which the reader has no part pays for what it asks for.
* `Session.Proceeds.work_lt` — every step of the chain leaves less to do.
* `Session.requests_settle` — the chain ends.

## Implementation notes

A look at the loaded ends asks for two pages at most, and each page asked for takes two steps, one
to settle and one to be heard. An occasion for a look is therefore worth four steps. A page that
brings something gives two occasions at most, the growth that the window has not seen yet and the
promise of more, so a message that is not loaded yet is worth eight.
-/

namespace Scrollback

/-- The reader has no part in the event. -/
def Event.isUnprompted : Event → Bool
  | .update | .settled _ _ | .tick | .teardown => true
  | _ => false

/-- The page was loaded and says that there is more. -/
def FetchResult.promisesMore : FetchResult → Bool
  | .loaded .more => true
  | _ => false

/-- The window is told of a page that says that there is more. -/
def Event.promisesMore : Event → Bool
  | .settled _ r => r.promisesMore
  | _ => false

/-- The work is the acknowledgement of a send. -/
def Job.isAcknowledgement : Job → Bool
  | .acknowledgement _ => true
  | _ => false

namespace Session

variable {s s' x y a b : Session} {m : Move} {e : Event} {es queue more : List Event}
  {d : Direction} {h : List (Session × Move)} {n : Nat}

/-! ## What is left to do -/

/-- How many page requests are under way. -/
def inFlight (s : Session) : Nat := s.pageTasks .older + s.pageTasks .newer

/-- How many of the results that wait promise more. -/
def promising (s : Session) : Nat := s.results.countP fun r => r.2.promisesMore

/-- One if the window has not seen how many messages are loaded. -/
def unseen (s : Session) : Nat := if s.window.state.prevSize = s.graph.size then 0 else 1

/-- How many directions are not closed for good. -/
def openGates (s : Session) : Nat :=
  [Direction.older, .newer].countP fun d => decide (s.gate d ≠ .exhausted)

/-- How often the window may still come to look at the loaded ends with what is loaded now. -/
def occasions (s : Session) : Nat := s.promising + s.unseen + s.openGates

/-- How much is left to do at most. -/
def work (s : Session) : Nat :=
  2 * s.inFlight + s.results.length + 4 * s.occasions + 8 * s.feed.missing

/-- No page request is under way and no result waits to be heard. -/
def AtRest (s : Session) : Prop := s.inFlight = 0 ∧ s.results = []

instance (s : Session) : Decidable s.AtRest := inferInstanceAs (Decidable (_ ∧ _))

theorem unseen_le_one (s : Session) : s.unseen ≤ 1 := by
  rw [unseen]
  split <;> omega

theorem openGates_congr (hgate : ∀ d, s'.gate d = .exhausted ↔ s.gate d = .exhausted) :
    s'.openGates = s.openGates := by
  rw [openGates, openGates]
  refine List.countP_congr fun d _ => ?_
  rw [decide_eq_true_eq, decide_eq_true_eq, Ne, Ne, hgate]

/-- A direction that is closed for good counts no more. -/
theorem openGates_of_exhausted (hopen : s.gate d ≠ .exhausted) (hclosed : s'.gate d = .exhausted)
    (hother : ∀ c, c ≠ d → s'.gate c = s.gate c) : s'.openGates + 1 = s.openGates := by
  cases d with
  | older =>
    have hnewer := hother .newer (by decide)
    simp [openGates, List.countP_cons, hopen, hclosed, hnewer]
  | newer =>
    have holder := hother .older (by decide)
    simp [openGates, List.countP_cons, hopen, hclosed, holder]
    omega

theorem Asks.openGates_eq (hasks : Asks s s') : s'.openGates = s.openGates := by
  refine openGates_congr fun d => ?_
  rcases hasks.gate d with hkeeps | hcloses
  · rw [hkeeps.gate]
  · rw [hcloses.pending, hcloses.was_idle]
    simp

theorem Asks.inFlight_le (hasks : Asks s s') : s'.inFlight ≤ s.inFlight + 2 := by
  have hle (d : Direction) : s'.pageTasks d ≤ s.pageTasks d + 1 := by
    rcases hasks.gate d with hkeeps | hcloses
    · rw [hkeeps.pageTasks]
      exact Nat.le_succ _
    · exact Nat.le_of_eq hcloses.pageTasks
  have holder := hle .older
  have hnewer := hle .newer
  rw [inFlight, inFlight]
  omega

theorem inFlight_begun (s : Session) (e : Event) : (s.begun e).inFlight = s.inFlight := by
  rw [inFlight, inFlight, pageTasks_begun, pageTasks_begun]

/-! ## One event -/

theorem ne_jumpToLatest_of_isUnprompted (he : e.isUnprompted = true) : e ≠ .jumpToLatest := by
  rintro rfl
  cases he

/-- An event in which the reader has no part is what it changes by itself, and requests. -/
theorem handle_unprompted (he : e.isUnprompted = true) (hh : s.handle e = .ok (y, more)) :
    Asks (s.begun e) y ∧ ∀ e' ∈ more, e' = .update := by
  obtain ⟨hasks, n, rfl, -⟩ :=
    handle_asks (replaces_of_ne (ne_jumpToLatest_of_isUnprompted he)) hh
  exact ⟨hasks, fun e' hmem => List.eq_of_mem_replicate hmem⟩

/-- Without a look at the ends nothing is asked for. -/
theorem inFlight_of_not_examines (he : e.isUnprompted = true)
    (haccepts : s.window.state.accepts e = true)
    (hexamines : s.window.state.examines (s.window.inputs s.graph s.unread s.now) e = false)
    (hh : s.handle e = .ok (y, more)) : y.inFlight = s.inFlight := by
  obtain ⟨t, ht, hwindow, -⟩ := handle_transition hh
  have hmoved : y.window.state = t.state := congrArg Window.state hwindow
  obtain ⟨hasks, -⟩ := handle_unprompted he hh
  have hretry : ∀ d, e ≠ .retry d := by
    rintro d rfl
    cases he
  have hstate := state_begun haccepts (replaces_of_ne (ne_jumpToLatest_of_isUnprompted he))
  have htasks (d : Direction) : y.pageTasks d = s.pageTasks d := by
    rcases hasks.gate d with hkeeps | hcloses
    · rw [hkeeps.pageTasks, pageTasks_begun]
    · have hgate := (step_of_not_examines (d := d) haccepts hretry hexamines ht).1
      have hidle := hcloses.was_idle
      have hpending := hcloses.pending
      rw [gate, hstate] at hidle
      rw [gate, hmoved, hgate, hidle] at hpending
      cases hpending
  rw [inFlight, inFlight, htasks, htasks]

/-- Nothing but an update changes whether the window has seen how many messages are loaded. -/
theorem unseen_of_ne_update (he : e.isUnprompted = true) (hupdate : e ≠ .update)
    (hh : s.handle e = .ok (y, more)) : y.unseen = s.unseen := by
  obtain ⟨t, ht, hwindow, -⟩ := handle_transition hh
  have hmoved : y.window.state = t.state := congrArg Window.state hwindow
  have hfeed : y.feed = s.feed := by
    rw [(handle_unprompted he hh).1.feed, feed_begun_of_ne (ne_jumpToLatest_of_isUnprompted he)]
  have hprev : t.state.prevSize = s.window.state.prevSize := by
    refine (step_counts_of_ne hupdate ?_ ?_ ht).2
    · rintro rfl
      cases he
    · rintro rfl
      cases he
  rw [unseen, unseen, graph, graph, hfeed, hmoved, hprev]

/-- An update shows the window how many messages are loaded. -/
theorem unseen_of_update (haccepts : s.window.state.accepts .update = true)
    (hh : s.handle .update = .ok (y, more)) : y.unseen = 0 := by
  obtain ⟨t, ht, hwindow, -⟩ := handle_transition hh
  have hfeed : y.feed = s.feed := by
    rw [(handle_unprompted rfl hh).1.feed, begun_update]
  rw [unseen, graph, hfeed, hwindow]
  exact if_pos (step_update_prevSize haccepts ht)

/-- A result that is awaited closes its direction for good, or leaves it open. -/
theorem openGates_begun_settled {r : FetchResult}
    (haccepts : s.window.state.accepts (.settled d r) = true) (hpending : s.gate d = .pending) :
    (s.begun (.settled d r)).openGates + (if r = .loaded .exhausted then 1 else 0) =
      s.openGates := by
  have hstate : (s.begun (.settled d r)).window.state = s.window.state.setGate d r.gate := by
    rw [state_begun haccepts (replaces_of_ne Event.noConfusion),
      WindowState.begun_settled hpending]
  have hgate : (s.begun (.settled d r)).gate d = r.gate := by
    rw [gate, hstate, WindowState.gate_setGate]
  have hother : ∀ c, c ≠ d → (s.begun (.settled d r)).gate c = s.gate c := fun c hc => by
    rw [gate, hstate, WindowState.gate_setGate_of_ne _ hc, gate]
  by_cases hlast : r = .loaded .exhausted
  · subst hlast
    rw [if_pos rfl]
    refine openGates_of_exhausted ?_ hgate hother
    rw [hpending]
    exact Gate.noConfusion
  · have hidle : r.gate = .idle := by
      rcases r with (_ | _) | _
      · rfl
      · exact absurd rfl hlast
      · rfl
    rw [if_neg hlast]
    refine openGates_congr fun c => ?_
    by_cases hc : c = d
    · rw [hc, hgate, hidle, hpending]
      simp
    · rw [hother c hc]

/-- An event that leaves the gates by itself leaves as many of them open. -/
theorem openGates_begun (he : e.isUnprompted = true) (haccepts : s.window.state.accepts e = true)
    (hgate : ∀ d, (s.window.state.begun e).gate d = s.window.state.gate d) :
    (s.begun e).openGates = s.openGates := by
  refine openGates_congr fun d => ?_
  rw [gate, state_begun haccepts (replaces_of_ne (ne_jumpToLatest_of_isUnprompted he)), hgate, gate]

/-- An update uses up an occasion where the window looks at the ends. -/
theorem occasions_update (haccepts : s.window.state.accepts .update = true)
    (hh : s.handle .update = .ok (y, more)) :
    y.unseen + (if s.window.state.examines (s.window.inputs s.graph s.unread s.now) .update
      then 1 else 0) = s.unseen := by
  rw [unseen_of_update haccepts hh, unseen]
  by_cases hsize : s.window.state.prevSize = s.graph.size
  · simp [WindowState.examines, Window.inputs, hsize]
  · simp [WindowState.examines, Window.inputs, hsize, Ne.symm hsize]

/-- A result makes the window look at the ends where it closes its direction for good or promises
more, at most. -/
theorem occasions_settled {r : FetchResult} (inp : Inputs)
    (haccepts : s.window.state.accepts (.settled d r) = true) :
    (s.begun (.settled d r)).openGates +
      (if s.window.state.examines inp (.settled d r) then 1 else 0) ≤
        s.openGates + if (Event.settled d r).promisesMore then 1 else 0 := by
  by_cases hpending : s.window.state.gate d = .pending
  · have hbegun := openGates_begun_settled haccepts hpending
    have hexamines : s.window.state.examines inp (.settled d r) = r.isLoaded := by
      rw [WindowState.examines, decide_eq_true hpending, Bool.true_and]
    rw [hexamines]
    rcases r with (_ | _) | x
    all_goals
      simp [FetchResult.isLoaded, Event.promisesMore, FetchResult.promisesMore] at hbegun ⊢
      omega
  · have hexamines : s.window.state.examines inp (.settled d r) = false := by
      rw [WindowState.examines, decide_eq_false hpending, Bool.false_and]
    have hbegun := openGates_begun rfl haccepts fun c => by
      rw [WindowState.begun_settled_of_ne hpending]
    rw [hexamines, hbegun]
    exact Nat.le_add_right _ _

/-- **A look uses up an occasion**, and no event brings one up but a result that promises more. -/
theorem occasions_handle (he : e.isUnprompted = true) (haccepts : s.window.state.accepts e = true)
    (hh : s.handle e = .ok (y, more)) :
    y.occasions + (if s.window.state.examines (s.window.inputs s.graph s.unread s.now) e
      then 1 else 0) ≤ s.occasions + if e.promisesMore then 1 else 0 := by
  obtain ⟨hasks, -⟩ := handle_unprompted he hh
  have hpromising : y.promising = s.promising := by
    rw [promising, hasks.results, results_begun, promising]
  rw [occasions, occasions, hpromising, hasks.openGates_eq]
  cases e with
  | update =>
    have hseen := occasions_update haccepts hh
    rw [begun_update]
    omega
  | settled d r =>
    have hopen := occasions_settled (s.window.inputs s.graph s.unread s.now) haccepts
    rw [unseen_of_ne_update he Event.noConfusion hh]
    omega
  | tick | teardown =>
    rw [unseen_of_ne_update he Event.noConfusion hh,
      openGates_begun he haccepts (WindowState.begun_gate rfl)]
    exact Nat.le_refl _
  | _ => cases he

/-- **An event in which the reader has no part pays for what it asks for.** -/
theorem work_handle_le (he : e.isUnprompted = true) (hh : s.handle e = .ok (y, more)) :
    y.work ≤ s.work + 4 * if e.promisesMore then 1 else 0 := by
  cases haccepts : s.window.state.accepts e with
  | false =>
    obtain ⟨rfl, -⟩ := handle_of_not_accepts haccepts hh
    exact Nat.le_add_right _ _
  | true =>
    obtain ⟨hasks, -⟩ := handle_unprompted he hh
    have hresults : y.results.length = s.results.length := by rw [hasks.results, results_begun]
    have hmissing : y.feed.missing = s.feed.missing := by
      rw [hasks.feed, feed_begun_of_ne (ne_jumpToLatest_of_isUnprompted he)]
    have hoccasions := occasions_handle he haccepts hh
    have hasked : y.inFlight ≤ s.inFlight +
        2 * (if s.window.state.examines (s.window.inputs s.graph s.unread s.now) e
          then 1 else 0) := by
      cases hexamines : s.window.state.examines (s.window.inputs s.graph s.unread s.now) e with
      | false => exact Nat.le_of_eq (inFlight_of_not_examines he haccepts hexamines hh)
      | true => exact inFlight_begun s e ▸ hasks.inFlight_le
    rw [work, work, hresults, hmissing]
    omega

/-- The window is told of events in which the reader has no part. -/
theorem work_tell_le (hes : ∀ e ∈ es, e.isUnprompted = true) (htell : a.tell es = .ok b) :
    b.work ≤ a.work + 4 * es.countP Event.promisesMore := by
  have hlast : (∀ e ∈ ([] : List Event), e.isUnprompted = true) ∧
      b.work + 4 * ([] : List Event).countP Event.promisesMore ≤
        a.work + 4 * es.countP Event.promisesMore := by
    refine tell_induction (P := fun queue x => (∀ e ∈ queue, e.isUnprompted = true) ∧
      x.work + 4 * queue.countP Event.promisesMore ≤ a.work + 4 * es.countP Event.promisesMore)
      ?_ ?_ ⟨hes, Nat.le_refl _⟩ htell
    · rintro queue queue' x hperm ⟨hqueue, hx⟩
      rw [hperm.countP_eq] at hx
      exact ⟨fun e he => hqueue e (hperm.mem_iff.2 he), hx⟩
    · rintro e queue x y more hh ⟨hqueue, hx⟩
      obtain ⟨he, hqueue⟩ := List.forall_mem_cons.1 hqueue
      obtain ⟨-, hmore⟩ := handle_unprompted he hh
      have hle := work_handle_le he hh
      -- the updates that follow promise nothing
      have hnone : more.countP Event.promisesMore = 0 := by
        refine List.countP_eq_zero.2 fun e' he' => ?_
        rw [hmore e' he']
        exact Bool.false_ne_true
      constructor
      · refine List.forall_mem_append.2 ⟨fun e' he' => ?_, hqueue⟩
        rw [hmore e' he']
        rfl
      · rw [List.countP_cons] at hx
        rw [List.countP_append, hnone]
        omega
  exact hlast.2

/-! ## Steps of the chain -/

/-- A page request under way has settled, and its result waits to be heard unless it was lost. -/
def answered (s : Session) (n : Nat) (d : Direction) (f : Feed) (r : Option FetchResult) :
    Session :=
  { s with
    tasks := s.tasks.eraseIdx n
    feed := f
    results := s.results ++ (r.map (d, ·)).toList }

/-- The chain of requests goes on: a page request under way settles in any way, or the result that
has waited longest is heard. -/
inductive Proceeds (s : Session) : Session → Prop where
  | settles (n : Nat) {t : Task} {d : Direction} {f : Feed} {r : Option FetchResult} :
      s.tasks[n]? = some t → t.job = .page d → s.feed.Settles d f r →
      Proceeds s (s.answered n d f r)
  | hears {s' : Session} : s.move .hearResult = some s' → Proceeds s s'

/-- A session that does the work of a page request goes on with the chain. -/
theorem proceeds_of_perform {t : Task} (ht : s.tasks[n]? = some t) (hjob : t.job = .page d)
    (hm : s.move (.perform n) = some s') : s.Proceeds s' := by
  obtain ⟨number, due, job⟩ := t
  obtain rfl : job = .page d := hjob
  rw [move, ht, Option.map_some, perform_page] at hm
  cases hm
  exact .settles n ht rfl (s.feed.settles_settle d)

/-- What the chain of requests does not change. -/
structure Stays (s s' : Session) : Prop where
  config : s'.feed.config = s.feed.config
  remote : s'.feed.remote.size = s.feed.remote.size
  policy : s'.window.policy = s.window.policy
  exists_spans : (∃ a b, s.feed.Spans a b) → ∃ a b, s'.feed.Spans a b

theorem Stays.refl (s : Session) : Stays s s := ⟨rfl, rfl, rfl, id⟩

theorem Stays.trans (h : Stays s x) (k : Stays x y) : Stays s y where
  config := k.config.trans h.config
  remote := k.remote.trans h.remote
  policy := k.policy.trans h.policy
  exists_spans := fun hs => k.exists_spans (h.exists_spans hs)

theorem Stays.of_eq (hfeed : s'.feed = s.feed) (hpolicy : s'.window.policy = s.window.policy) :
    Stays s s' where
  config := by rw [hfeed]
  remote := by rw [hfeed]
  policy := hpolicy
  exists_spans := by
    rw [hfeed]
    exact id

theorem tell_stays (htell : a.tell es = .ok b) : Stays a b := by
  refine tell_induction (P := fun _ x => Stays a x) (fun _ hx => hx) ?_ (.refl a) htell
  rintro e queue x y more hh hx
  obtain ⟨t, -, hwindow, -⟩ := handle_transition hh
  refine hx.trans
    { config := (handle_continues hh).config
      remote := by rw [handle_remote hh]
      policy := by rw [hwindow]; rfl
      exists_spans := (handle_continues hh).exists_spans }

/-- The request that has settled is under way no more. -/
theorem inFlight_answered {t : Task} (ht : s.tasks[n]? = some t) (hjob : t.job = .page d)
    (f : Feed) (r : Option FetchResult) : (s.answered n d f r).inFlight + 1 = s.inFlight := by
  have hcount (c : Direction) : s.pageTasks c =
      (s.answered n d f r).pageTasks c + if d = c then 1 else 0 := by
    rw [pageTasks, countP_eraseIdx ht, hjob]
    simp only [decide_eq_true_eq, Job.page.injEq]
    rfl
  rw [inFlight, inFlight, hcount .older, hcount .newer]
  cases d <;> simp <;> omega

/-- A page that brings nothing leaves nothing to be seen. -/
theorem unseen_answered {f : Feed} (hsize : f.loaded.size = s.feed.loaded.size) (n : Nat)
    (d : Direction) (r : Option FetchResult) : (s.answered n d f r).unseen = s.unseen := by
  change (if s.window.state.prevSize = f.loaded.size then 0 else 1) = s.unseen
  rw [hsize]
  rfl

/-- A page request that settles leaves less to do: what it brings is not missing any more. -/
theorem work_answered_lt {t : Task} {f : Feed} {r : Option FetchResult}
    (ht : s.tasks[n]? = some t) (hjob : t.job = .page d) (hsettles : s.feed.Settles d f r)
    (hspans : ∃ a b, s.feed.Spans a b) (hpos : 0 < s.feed.config.pageSize) :
    (s.answered n d f r).work < s.work := by
  have hinFlight := inFlight_answered ht hjob f r
  have hopen : (s.answered n d f r).openGates = s.openGates := rfl
  obtain ⟨hmissing, hgrown⟩ := hsettles.missing_le hspans
  have hlength : (s.answered n d f r).results.length ≤ s.results.length + 1 := by
    rw [answered, List.length_append]
    cases r <;> simp
  have hpromising : (s.answered n d f r).promising =
      s.promising + if r.any FetchResult.promisesMore then 1 else 0 := by
    rw [promising, answered, List.countP_append, promising]
    cases r <;> simp
  have hmore : r.any FetchResult.promisesMore = true → f.missing < s.feed.missing := by
    intro hany
    rcases r with _ | (_ | _) | _
    · cases hany
    · exact hsettles.missing_lt hspans hpos
    · cases hany
    · cases hany
  have hf : (s.answered n d f r).feed = f := rfl
  rw [work, work, occasions, occasions, hopen, hpromising, hf]
  by_cases hsize : f.loaded.size = s.feed.loaded.size
  · rw [unseen_answered hsize]
    split
    · next hany =>
      have hless := hmore hany
      omega
    · omega
  · have hunseen := (s.answered n d f r).unseen_le_one
    have hless := hgrown hsize
    split <;> omega

/-- A result that waits is a step to take, and an occasion if it promises more. -/
theorem work_of_results {r : FetchResult} {results : List (Direction × FetchResult)}
    (hresults : s.results = (d, r) :: results) :
    ({ s with results } : Session).work + 1 + 4 * (if r.promisesMore then 1 else 0) = s.work := by
  have hinFlight : ({ s with results } : Session).inFlight = s.inFlight := rfl
  have hunseen : ({ s with results } : Session).unseen = s.unseen := rfl
  have hopen : ({ s with results } : Session).openGates = s.openGates := rfl
  have hpromising : s.promising =
      ({ s with results } : Session).promising + if r.promisesMore then 1 else 0 := by
    rw [promising, hresults, List.countP_cons]
    rfl
  have hlength : s.results.length = ({ s with results } : Session).results.length + 1 := by
    rw [hresults, List.length_cons]
  have hmissing : ({ s with results } : Session).feed.missing = s.feed.missing := rfl
  rw [work, work, occasions, occasions]
  omega

/-- A result that is heard leaves less to do: what the window asks for, it pays for. -/
theorem work_hearResult_lt (hm : s.move .hearResult = some s') : s'.work < s.work := by
  obtain ⟨a, es, b, htold, htell, hb⟩ := exists_told hm
  obtain rfl : s' = b := hb
  rw [told] at htold
  split at htold
  · next d r results hresults =>
    obtain ⟨rfl, rfl⟩ := Prod.mk.inj (Option.some.inj htold)
    have hforgiven : (forgiven { s with results } d r).work =
        ({ s with results } : Session).work := by
      rw [forgiven]
      split <;> rfl
    have hpaid := work_of_results hresults
    have hle := work_tell_le (by simp [Event.isUnprompted]) htell
    have hpromised : [Event.update, .settled d r].countP Event.promisesMore =
        if r.promisesMore then 1 else 0 := by
      rcases r with (_ | _) | _ <;> rfl
    rw [hpromised, hforgiven] at hle
    omega
  · cases htold

theorem hearResult_stays (hm : s.move .hearResult = some s') : Stays s s' := by
  obtain ⟨a, es, b, htold, htell, hb⟩ := exists_told hm
  obtain rfl : s' = b := hb
  refine Stays.trans ?_ (tell_stays htell)
  rw [told] at htold
  split at htold
  · cases htold
    rw [forgiven]
    split <;> exact .of_eq rfl rfl
  · cases htold

/-- **Every step of the chain leaves less to do.** -/
theorem Proceeds.work_lt (h : s.Proceeds s') (hspans : ∃ a b, s.feed.Spans a b)
    (hpos : 0 < s.feed.config.pageSize) : s'.work < s.work := by
  cases h with
  | settles n ht hjob hsettles => exact work_answered_lt ht hjob hsettles hspans hpos
  | hears hm => exact work_hearResult_lt hm

theorem Proceeds.stays (h : s.Proceeds s') : Stays s s' := by
  cases h with
  | settles n ht hjob hsettles =>
    exact
      { config := hsettles.config
        remote := by rw [answered, hsettles.remote]
        policy := rfl
        exists_spans := hsettles.exists_spans }
  | hears hm => exact hearResult_stays hm

/-- **The chain goes on until the session is at rest**: there is work to be done, or a result to be
heard. -/
theorem Fits.exists_proceeds (hs : s.Fits) (hrest : ¬ s.AtRest) : ∃ s', s.Proceeds s' := by
  by_cases hidle : s.inFlight = 0
  · -- nothing is under way, so a result waits
    cases hresults : s.results with
    | nil => exact absurd ⟨hidle, hresults⟩ hrest
    | cons r results =>
      obtain ⟨d, r⟩ := r
      have hforgiven : (forgiven { s with results } d r).Fits := by
        rw [forgiven]
        split <;> exact ⟨hs.exists_spans, hs.policy⟩
      obtain ⟨s₁, hs₁, hfits₁⟩ := hforgiven.exists_dispatch .update
      obtain ⟨s₂, hs₂, -⟩ := hfits₁.exists_dispatch (.settled d r)
      refine ⟨s₂, .hears ?_⟩
      rw [move, hresults]
      exact toOption_eq_some.2 (handleResult_eq_ok.2 ⟨s₁, hs₁, hs₂⟩)
  · have hsome : ∃ d, 0 < s.pageTasks d := by
      rcases Nat.eq_zero_or_pos (s.pageTasks .older) with hzero | hpos
      · refine ⟨.newer, ?_⟩
        rw [inFlight, hzero, Nat.zero_add] at hidle
        exact Nat.pos_of_ne_zero hidle
      · exact ⟨.older, hpos⟩
    obtain ⟨d, hpos⟩ := hsome
    obtain ⟨t, hmem, hjob⟩ := List.countP_pos_iff.1 hpos
    obtain ⟨n, ht⟩ := List.mem_iff_getElem?.1 hmem
    have hm : s.move (.perform n) =
        some (({ s with tasks := s.tasks.eraseIdx n } : Session).perform t) := by
      rw [move, ht, Option.map_some]
    exact ⟨_, proceeds_of_perform ht (of_decide_eq_true hjob) hm⟩

/-! ## What happens in between -/

/-- The move takes no part in the chain: the reader has no part in it, no message comes in, and no
page request settles or is heard. -/
def idles (s : Session) : Move → Bool
  | .tick | .teardown | .resize _ | .wait _ | .hearNews | .close => true
  | .perform n => s.tasks[n]?.any fun t => t.job.isAcknowledgement
  | .mount _ | .input _ | .hearResult => false

/-- What matters for the work that is left. -/
theorem work_congr (hstate : s'.window.state = s.window.state) (hresults : s'.results = s.results)
    (htasks : ∀ d, s'.pageTasks d = s.pageTasks d)
    (hloaded : s'.feed.loaded.size = s.feed.loaded.size)
    (hremote : s'.feed.remote.size = s.feed.remote.size) : s'.work = s.work := by
  have hopen : s'.openGates = s.openGates := openGates_congr fun d => by rw [gate, hstate, gate]
  rw [work, work, occasions, occasions, hopen, inFlight, inFlight, htasks, htasks, promising,
    promising, unseen, unseen, graph, graph, hresults, hstate, hloaded, Feed.missing, Feed.missing,
    hloaded, hremote]

theorem perform_acknowledgement (s : Session) (number due : Nat) (sent : PendingSend) :
    ∃ news, s.perform ⟨number, due, .acknowledgement sent⟩ =
      { s with feed := (s.feed.acknowledge sent).1, news } := by
  cases hack : s.feed.acknowledge sent with
  | mk feed ours =>
    cases ours with
    | true =>
      simp only [perform, hack, report]
      split <;> exact ⟨_, rfl⟩
    | false =>
      simp only [perform, hack]
      exact ⟨_, rfl⟩

/-- An acknowledgement is no message. -/
theorem perform_idles {t : Task} (ht : s.tasks[n]? = some t)
    (hjob : t.job.isAcknowledgement = true) :
    (({ s with tasks := s.tasks.eraseIdx n } : Session).perform t).work = s.work ∧
      Stays s (({ s with tasks := s.tasks.eraseIdx n } : Session).perform t) := by
  obtain ⟨number, due, job⟩ := t
  cases job with
  | acknowledgement sent =>
    obtain ⟨news, heq⟩ := perform_acknowledgement { s with tasks := s.tasks.eraseIdx n } number due
      sent
    have hloaded := Graph.size_congr (s.feed.acknowledge_loaded_keys sent)
    have hremote := Graph.size_congr (s.feed.acknowledge_keys sent)
    have hgrows := s.feed.grows_acknowledge sent
    rw [heq]
    constructor
    · refine work_congr rfl rfl (fun d => ?_) hloaded hremote
      rw [pageTasks, pageTasks, countP_eraseIdx ht]
      rfl
    · exact ⟨hgrows.config, hremote, rfl, hgrows.exists_spans⟩
  | _ => cases hjob

/-- By itself a move that takes no part in the chain changes nothing that matters to it. -/
theorem told_idles (hidles : s.idles m = true) (htold : s.told m = some (a, es)) :
    a.work = s.work ∧ Stays s a ∧
      ∀ e ∈ es, e.isUnprompted = true ∧ e.promisesMore = false := by
  cases m with
  | mount rows | input i | hearResult => cases hidles
  | perform n =>
    obtain ⟨t, ht, heq⟩ := Option.map_eq_some_iff.1 htold
    cases heq
    rw [idles, ht, Option.any_some] at hidles
    obtain ⟨hwork, hstays⟩ := perform_idles ht hidles
    exact ⟨hwork, hstays, by simp⟩
  | hearNews =>
    rw [told] at htold
    split at htold
    · obtain ⟨unread, -, heq⟩ := Option.map_eq_some_iff.1 htold
      cases heq
      exact ⟨rfl, .of_eq rfl rfl, by simp [Event.isUnprompted, Event.promisesMore]⟩
    · cases htold
      exact ⟨rfl, .of_eq rfl rfl, by simp⟩
    · cases htold
  | _ =>
    cases htold
    exact ⟨rfl, .of_eq rfl rfl, by simp [Event.isUnprompted, Event.promisesMore]⟩

/-- **What happens in between brings up no more to do.** -/
theorem move_idles (hidles : s.idles m = true) (hm : s.move m = some s') :
    s'.work ≤ s.work ∧ Stays s s' := by
  obtain ⟨a, es, b, htold, htell, rfl⟩ := exists_told hm
  obtain ⟨hwork, hstays, hes⟩ := told_idles hidles htold
  have hnone : es.countP Event.promisesMore = 0 :=
    List.countP_eq_zero.2 fun e he => by simp [(hes e he).2]
  have hle := work_tell_le (fun e he => (hes e he).1) htell
  rw [settleMove_of_ne b fun rows => ?_]
  · rw [hnone, hwork] at hle
    exact ⟨hle, hstays.trans (tell_stays htell)⟩
  · rintro rfl
    cases hidles

/-! ## The chain -/

/-- A session that is left alone for a while, with so many steps of the chain: no reader does
anything and no message comes in. -/
inductive Unattended (s : Session) : Nat → Session → Prop where
  | start : Unattended s 0 s
  | proceeds {n : Nat} {x y : Session} : Unattended s n x → x.Proceeds y → Unattended s (n + 1) y
  | idles {n : Nat} {x y : Session} {m : Move} : Unattended s n x → x.idles m = true →
      x.move m = some y → Unattended s n y

/-- Each step of the chain is paid for with what was left to do. -/
theorem Unattended.work_le (hspans : ∃ a b, s.feed.Spans a b) (hpos : 0 < s.feed.config.pageSize)
    (hx : s.Unattended n x) : Stays s x ∧ n + x.work ≤ s.work := by
  induction hx with
  | start => exact ⟨.refl s, Nat.le_of_eq (Nat.zero_add _)⟩
  | proceeds _ hstep ih =>
    obtain ⟨hstays, hle⟩ := ih
    have hless := hstep.work_lt (hstays.exists_spans hspans) (hstays.config ▸ hpos)
    exact ⟨hstays.trans hstep.stays, by omega⟩
  | idles _ hidles hm ih =>
    obtain ⟨hstays, hle⟩ := ih
    obtain ⟨hless, hstays'⟩ := move_idles hidles hm
    exact ⟨hstays.trans hstays', by omega⟩

/-- **The chain of requests ends.** Left alone, a session takes no more than so many steps of it,
whatever order the requests settle in and whichever of them fail. As long as the sums that the
window may come to are counts, it goes on until no request is under way and no result waits. So
every schedule of the steps comes to rest. -/
theorem requests_settle (hrun : Run h s) (hpos : 0 < s.feed.config.pageSize) :
    (∀ n x, s.Unattended n x → n ≤ s.work) ∧
    (s.window.policy.Fits s.feed.remote.size →
      ∀ n x, s.Unattended n x → x.AtRest ∨ ∃ y, x.Proceeds y) ∧
    ∀ schedule : Nat → Session, schedule 0 = s →
      (∀ n, (schedule n).AtRest ∨ (schedule n).Proceeds (schedule (n + 1))) →
      ∃ n ≤ s.work, (schedule n).AtRest := by
  have hspans := hrun.tracks.exists_spans
  have hbound : ∀ n x, s.Unattended n x → n ≤ s.work := fun n x hx =>
    Nat.le_trans (Nat.le_add_right _ _) (hx.work_le hspans hpos).2
  refine ⟨hbound, fun hfits n x hx => ?_, fun schedule hstart hsteps => ?_⟩
  · obtain ⟨hstays, -⟩ := hx.work_le hspans hpos
    have hxfits : x.Fits := by
      refine ⟨hstays.exists_spans hspans, ?_⟩
      rw [hstays.policy, hstays.remote]
      exact hfits
    exact (Classical.em x.AtRest).imp_right hxfits.exists_proceeds
  · by_contra hnever
    have hlong : ∀ n ≤ s.work + 1, s.Unattended n (schedule n) := by
      intro n hn
      induction n with
      | zero => exact hstart ▸ .start
      | succ n ih =>
        refine (ih (by omega)).proceeds ((hsteps n).resolve_left fun hrest => ?_)
        exact hnever ⟨n, by omega, hrest⟩
    have hle := hbound _ _ (hlong (s.work + 1) (Nat.le_refl _))
    omega

/-- With five of twenty messages loaded and a page asked for in both directions, no schedule takes
more than 132 steps to come to rest. -/
theorem requests_settle_of_twenty : ∃ h s, Run h s ∧ s.inFlight = 2 ∧ (∃ x, s.Proceeds x) ∧
    (∀ n x, s.Unattended n x → n ≤ 132 ∧ (x.AtRest ∨ ∃ y, x.Proceeds y)) ∧
    ∀ schedule : Nat → Session, schedule 0 = s →
      (∀ n, (schedule n).AtRest ∨ (schedule n).Proceeds (schedule (n + 1))) →
      ∃ n ≤ 132, (schedule n).AtRest := by
  obtain ⟨h, s, hrun, hs⟩ := exists_run_of_trial { messages := 20, pageSize := 5 } [.mount 3]
    (fun _ s => decide (0 < s.feed.config.pageSize ∧ s.window.policy.Fits s.feed.remote.size ∧
      s.inFlight = 2 ∧ ¬ s.AtRest ∧ s.work = 132))
    (by decide +kernel)
  obtain ⟨hpos, hfits, htwo, hrest, hwork⟩ := of_decide_eq_true hs
  obtain ⟨hbound, hgoes, hschedule⟩ := requests_settle hrun hpos
  rw [hwork] at hbound hschedule
  exact ⟨h, s, hrun, htwo, (hgoes hfits 0 s .start).resolve_left hrest,
    fun n x hx => ⟨hbound n x hx, hgoes hfits n x hx⟩, hschedule⟩

end Session

end Scrollback
