import Scrollback.Proofs.Session.Underway
/-!
# The end of older history

A page toward older messages tells whether any are left. When the window hears that none is, it
closes the older gate for good. What it hears was true of the loaded part that the page was copied
to. If that part has been exchanged meanwhile, the answer is out of date, and nothing tells the
window so.

## Main definitions

* `Session.served` — how many answers came in since the loaded part was last exchanged.
* `Session.misled` — the last word on the end of older history was out of date when it was heard.

## Main statements

* `Session.exhausted_smallest` — a gate that was closed by a word in time is closed with reason.
-/

namespace Scrollback.Session

variable {s s' s₁ : Session} {m : Move} {d : Direction} {h : List (Session × Move)}

/-- How many answers came in since the loaded part was last exchanged. They stand at the end of the
queue, as far as they were not heard yet. -/
def served : List (Session × Move) → Nat
  | [] => 0
  | (s, m) :: h =>
    if s.replacedBy m then 0
    else
      match s.answer? m with
      | some (_, .ok _) => served h + 1
      | _ => served h

/-- The move has a result heard that tells that no older message is left. -/
def hearsEnd (s : Session) (m : Move) : Bool :=
  decide (m = .hearResult) && decide (s.results.head? = some (.older, .loaded .exhausted))

/-- The last result heard that told that no older message is left had come in before the loaded
part was last exchanged. -/
def misled : List (Session × Move) → Bool
  | [] => false
  | (s, m) :: h => if s.hearsEnd m then decide (served h < s.results.length) else misled h

theorem served_cons_of_passes (hanswer : s.answer? m = none) (hreplaced : s.replacedBy m = false) :
    served ((s, m) :: h) = served h := by
  rw [served, hreplaced, hanswer]
  rfl

theorem misled_cons_of_not (hm : s.hearsEnd m = false) : misled ((s, m) :: h) = misled h := by
  rw [misled, hm, if_neg Bool.false_ne_true]

theorem hearsEnd_of_ne (hm : m ≠ .hearResult) : s.hearsEnd m = false := by
  rw [hearsEnd, decide_eq_false hm, Bool.false_and]

/-- What the results in the queue and the closed gate tell of older history is true, as far as it is
about the present loaded part. -/
structure Sound (h : List (Session × Move)) (s : Session) : Prop where
  exists_spans : ∃ a b, s.feed.Spans a b
  results : ∀ i, s.results.length ≤ i + served h →
    s.results[i]? = some (.older, .loaded .exhausted) → s.feed.ReachesStart
  gate : s.gate .older = .exhausted → misled h = false → s.feed.ReachesStart

theorem Opened.sound (ho : Opened s) : Sound [] s where
  exists_spans := by
    obtain ⟨remote, config, o, hfeed⟩ := ho.feed
    rw [hfeed]
    exact Feed.spans_opened remote config o
  results := fun i _ hi => by
    rw [ho.results] at hi
    cases hi
  gate := fun hgate => by
    rw [Session.gate, ho.state] at hgate
    cases hgate

/-- A gate that is closed for good was so before requests were made. -/
theorem exhausted_of_keeps_or_closes (hk : Keeps d s s' ∨ Closes d s s')
    (hgate : s'.gate d = .exhausted) : s.gate d = .exhausted := by
  rcases hk with hk | hc
  · exact hk.gate ▸ hgate
  · rw [hc.pending] at hgate
    cases hgate

theorem Sound.passes (hs : Sound h s) (hp : Passes s s') (hm : m ≠ .hearResult)
    (hanswer : s.answer? m = none) (hreplaced : s.replacedBy m = false) :
    Sound ((s, m) :: h) s' where
  exists_spans := hp.feed.exists_spans hs.exists_spans
  results := fun i hi hresult => by
    rw [served_cons_of_passes hanswer hreplaced, hp.results] at hi
    rw [hp.results] at hresult
    exact (hs.results i hi hresult).grows hp.feed
  gate := fun hgate hheard => by
    rw [misled_cons_of_not (hearsEnd_of_ne hm)] at hheard
    exact (hs.gate (exhausted_of_keeps_or_closes (hp.gate .older) hgate) hheard).grows hp.feed

/-- After an exchange all results in the queue are out of date, and the gate is open. -/
theorem Sound.replaces (hs : Sound h s) (hasks : Asks (s.begun .jumpToLatest) s')
    (hreplaced : s.replacedBy m = true) : Sound ((s, m) :: h) s' where
  exists_spans := by
    have hr : s.replaces .jumpToLatest = true := (Bool.and_eq_true_iff.1 hreplaced).2
    rw [hasks.feed, feed_begun_of_replaces hr]
    exact s.feed.continues_jumpToLatest.exists_spans hs.exists_spans
  results := fun i hi hresult => by
    rw [served, if_pos hreplaced, Nat.add_zero] at hi
    rw [List.getElem?_eq_none hi] at hresult
    cases hresult
  gate := fun hgate _ => by
    have hr : s.replaces .jumpToLatest = true := (Bool.and_eq_true_iff.1 hreplaced).2
    have hopen := exhausted_of_keeps_or_closes (hasks.gate .older) hgate
    rw [Session.gate, (state_begun_of_replaces hr).1] at hopen
    cases hopen

/-- An answer that comes in is true of the loaded part that its page was joined to. -/
theorem Sound.answers (hs : Sound h s) (ha : Answers d s s') (hm : m ≠ .hearResult)
    (hanswer : s.answer? m = some (d, (s.feed.settle d).2)) (hreplaced : s.replacedBy m = false) :
    Sound ((s, m) :: h) s' where
  exists_spans := by
    rw [ha.feed]
    exact (s.feed.grows_settle d).exists_spans hs.exists_spans
  results := fun i hi hresult => by
    have hgrows := s.feed.grows_settle d
    rw [served, hreplaced, if_neg Bool.false_ne_true, hanswer] at hi
    rw [ha.results] at hi hresult
    rw [ha.feed]
    cases hsettle : (s.feed.settle d).2 with
    | error fault =>
      rw [hsettle] at hi hresult
      simp only [Except.toOption, Option.map_none, Option.toList_none, List.append_nil]
        at hi hresult
      exact (hs.results i hi hresult).grows hgrows
    | ok r =>
      rw [hsettle] at hi hresult
      simp only [Except.toOption, Option.map_some, Option.toList_some, List.length_append,
        List.length_singleton] at hi hresult
      by_cases hlast : i < s.results.length
      · rw [List.getElem?_append_left hlast] at hresult
        exact (hs.results i (by omega) hresult).grows hgrows
      · rw [List.getElem?_append_right (by omega), List.getElem?_singleton] at hresult
        split at hresult
        · cases hresult
          exact Feed.reachesStart_of_settle hs.exists_spans hsettle
        · cases hresult
  gate := fun hgate hheard => by
    have hsame : s'.gate .older = s.gate .older := congrArg (fun w => w.state.gate .older) ha.window
    rw [misled_cons_of_not (hearsEnd_of_ne hm)] at hheard
    rw [ha.feed]
    exact (hs.gate (hsame ▸ hgate) hheard).grows (s.feed.grows_settle d)

/-- Only a result that nothing is left closes a gate for good. -/
theorem eq_exhausted_of_gate {r : FetchResult} (hr : r.gate = .exhausted) :
    r = .loaded .exhausted := by
  cases r with
  | failed e => cases hr
  | loaded o =>
    cases o with
    | more => cases hr
    | exhausted => rfl

/-- What is heard about the end of older history, if it is in time, is true. -/
theorem Sound.reachesStart_of_head {results : List (Direction × FetchResult)} (hs : Sound h s)
    (hresults : s.results = (.older, .loaded .exhausted) :: results)
    (hheard : misled ((s, .hearResult) :: h) = false) : s.feed.ReachesStart := by
  have hend : s.hearsEnd .hearResult = true := by
    rw [hearsEnd, hresults]
    rfl
  rw [misled, if_pos hend, decide_eq_false_iff_not, Nat.not_lt] at hheard
  refine hs.results 0 (by omega) ?_
  rw [hresults]
  rfl

theorem Sound.hears {r : FetchResult} {results : List (Direction × FetchResult)} (hs : Sound h s)
    (hresults : s.results = (d, r) :: results)
    (hbefore : ({ s with results } : Session).beforeSettling d r = .ok s₁)
    (hasks : Asks (s₁.begun (.settled d r)) s') : Sound ((s, .hearResult) :: h) s' := by
  have hpasses := beforeSettling_passes hbefore
  have hgrows : s.feed.Grows s'.feed := by
    rw [hasks.feed, feed_begun_of_ne Event.noConfusion]
    exact hpasses.feed
  constructor
  · exact hgrows.exists_spans hs.exists_spans
  · intro i hi hresult
    rw [served_cons_of_passes rfl rfl] at hi
    rw [hasks.results, results_begun, hpasses.results] at hi hresult
    refine (hs.results (i + 1) ?_ ?_).grows hgrows
    · rw [hresults, List.length_cons]
      have hi : results.length ≤ i + served h := hi
      omega
    · rw [hresults]
      exact hresult
  · intro hgate hheard
    refine Feed.ReachesStart.grows ?_ hgrows
    by_cases hhead : (d, r) = (.older, .loaded .exhausted)
    · rw [hhead] at hresults
      exact hs.reachesStart_of_head hresults hheard
    · have hclosed := exhausted_of_keeps_or_closes (hasks.gate .older) hgate
      rw [gate_begun_settled] at hclosed
      split at hclosed
      · next hsettles =>
        obtain ⟨rfl, -⟩ := hsettles
        exact absurd (congrArg _ (eq_exhausted_of_gate hclosed)) hhead
      · have hbefore := exhausted_of_keeps_or_closes (hpasses.gate .older) hclosed
        have hend : s.hearsEnd .hearResult = false := by
          rw [hearsEnd, hresults, List.head?_cons, Bool.and_eq_false_iff]
          exact .inr (decide_eq_false fun heq => hhead (Option.some.inj heq))
        rw [misled_cons_of_not hend] at hheard
        exact hs.gate hbefore hheard

/-! ## Runs -/

/-- One move keeps what the results and the gate tell true. -/
theorem Sound.move (hs : Sound h s) (hm : s.move m = some s') : Sound ((s, m) :: h) s' := by
  cases move_turn hm with
  | passes hhear hanswer hreplaced hp => exact hs.passes hp hhear hanswer hreplaced
  | replaces _ _ hreplaced hasks => exact hs.replaces hasks hreplaced
  | answers d hhear hanswer hreplaced ha => exact hs.answers ha hhear hanswer hreplaced
  | hears d r results s₁ hhear hresults hbefore hasks =>
    subst hhear
    exact hs.hears hresults hbefore hasks

theorem Run.sound (hrun : Run h s) : Sound h s := by
  induction hrun with
  | opened ho => exact ho.sound
  | move _ hm ih => exact ih.move hm

/-- **The end of older history.** In every run, when the older gate is closed for good and the last
word on the end of older history was in time, the oldest loaded message is the oldest of all. -/
theorem exhausted_smallest (hrun : Run h s) (hgate : s.gate .older = .exhausted)
    (hheard : misled h = false) : s.feed.loaded.smallest? = s.feed.remote.smallest? :=
  (hrun.sound.gate hgate hheard).smallest?_eq

/-- A channel that fits in a page is loaded from its first message on. -/
theorem exhausted_smallest_page : ∃ h s, Run h s ∧ s.gate .older = .exhausted ∧
    misled h = false ∧ s.feed.loaded.smallest? = s.feed.remote.smallest? := by
  obtain ⟨h, s, hrun, hs⟩ := exists_run_of_trial { messages := 5 }
    [.mount 10, .perform 1, .hearResult]
    (fun h s => decide (s.gate .older = .exhausted ∧ misled h = false)) (by decide +kernel)
  obtain ⟨hgate, hheard⟩ := of_decide_eq_true hs
  exact ⟨h, s, hrun, hgate, hheard, exhausted_smallest hrun hgate hheard⟩

/-- An answer about the first messages, heard after the reader jumped to the last ones, closes the
older gate on them. -/
theorem exists_exhausted_too_early : ∃ h s, Run h s ∧ s.gate .older = .exhausted ∧
    misled h = true ∧ s.feed.loaded.isEmpty = false ∧
      s.feed.loaded.smallest? ≠ s.feed.remote.smallest? := by
  obtain ⟨h, s, hrun, hs⟩ := exists_run_of_trial
    { messages := 9, pageSize := 2, scrollTo := some .first }
    [.mount 10, .perform 1, .input (.key .bottom false), .hearResult]
    (fun h s => decide (s.gate .older = .exhausted ∧ misled h = true ∧
      s.feed.loaded.isEmpty = false ∧ s.feed.loaded.smallest? ≠ s.feed.remote.smallest?))
    (by decide +kernel)
  exact ⟨h, s, hrun, of_decide_eq_true hs⟩

end Scrollback.Session
