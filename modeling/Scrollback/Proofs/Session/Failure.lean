import Scrollback.Proofs.Session.Dismissal
import Scrollback.Proofs.Session.LiveEnd
import Scrollback.Screen.Frame
/-!
# What is remembered of failed requests

Pages fail in either direction, but the session remembers one failure only: the last of all. A
request that failed stands until its direction is asked for again, a page of it is heard of, or the
loaded part is exchanged. The log of a run tells which failures stand. What the reader is offered to
retry is the last failure of all, if it stands; the failure of the other direction is forgotten as
soon as that one is remembered.

## Main definitions

* `LoadMark` — what bears on a failed request, in the order of its happening.
* `Stands`, `Latest` — the failure of a direction stands, and it is the last of all.
* `Session.loadLog` — what bore on failed requests in the course of a run.
* `Session.Offers` — the reader is told of a failure, and the retry key asks for its page again.
* `Session.Remembers` — what is remembered of failures, up to the events in a queue.

## Main statements

* `Session.handle_marks` — what one event does to the failure that is remembered.
* `Session.Remembers.handle`, `Session.Remembers.told` — one event and a move keep the memory.
* `Session.offers_iff` — the failure that is offered is the last of all, if it stands.
-/

namespace Scrollback

/-- What bears on a failed request. -/
inductive LoadMark where
  /-- A page of a direction is asked for. -/
  | requested (d : Direction)
  /-- The window takes notice of a failure. -/
  | failed (d : Direction) (e : FetchError)
  /-- A page of a direction is heard of. -/
  | loaded (d : Direction)
  /-- The loaded part is exchanged for another. -/
  | exchanged
deriving DecidableEq

/-- The mark bears on the failures of a direction. -/
def LoadMark.concerns (d : Direction) : LoadMark → Bool
  | .requested d' | .failed d' _ | .loaded d' => d' = d
  | .exchanged => true

/-- The mark is a failure. -/
def LoadMark.isFailure : LoadMark → Bool
  | .failed _ _ => true
  | _ => false

/-- The last thing that bore on a direction is the failure of a request. -/
def Stands (log : List LoadMark) (d : Direction) (e : FetchError) : Prop :=
  (log.filter (·.concerns d)).getLast? = some (.failed d e)

/-- The last failure of all is that of a direction. -/
def Latest (log : List LoadMark) (d : Direction) (e : FetchError) : Prop :=
  (log.filter LoadMark.isFailure).getLast? = some (.failed d e)

variable {log ms : List LoadMark} {d d' : Direction} {e e' : FetchError}

instance : Decidable (Stands log d e) := inferInstanceAs (Decidable (_ = _))

instance : Decidable (Latest log d e) := inferInstanceAs (Decidable (_ = _))

theorem not_latest_nil : ¬ Latest [] d e := nofun

/-! ## Marks that join a log -/

theorem getLast?_filter_append (p : LoadMark → Bool) (log ms : List LoadMark) :
    ((log ++ ms).filter p).getLast? =
      ((ms.filter p).getLast?).or (log.filter p).getLast? := by
  rw [List.filter_append, List.getLast?_append]

/-- Marks that do not bear on a direction leave its failures. -/
theorem stands_append (h : ∀ m ∈ ms, m.concerns d = false) :
    Stands (log ++ ms) d e ↔ Stands log d e := by
  have hnone : ms.filter (·.concerns d) = [] := by
    rw [List.filter_eq_nil_iff]
    intro m hm
    rw [h m hm]
    exact Bool.false_ne_true
  rw [Stands, getLast?_filter_append, hnone]
  rfl

/-- Marks without a failure leave the last of all. -/
theorem latest_append (h : ∀ m ∈ ms, m.isFailure = false) :
    Latest (log ++ ms) d e ↔ Latest log d e := by
  have hnone : ms.filter LoadMark.isFailure = [] := by
    rw [List.filter_eq_nil_iff]
    intro m hm
    rw [h m hm]
    exact Bool.false_ne_true
  rw [Latest, getLast?_filter_append, hnone]
  rfl

/-- A failure does not stand any more once something else bears on its direction last. -/
theorem not_stands_append {m : LoadMark} (hm : m ∈ ms) (hconcerns : m.concerns d = true)
    (hfailure : ∀ m ∈ ms, m.isFailure = false) : ¬ Stands (log ++ ms) d e := by
  intro hstands
  rw [Stands, getLast?_filter_append] at hstands
  cases hlast : (ms.filter (·.concerns d)).getLast? with
  | none =>
    have hempty := List.getLast?_eq_none_iff.1 hlast
    exact List.filter_eq_nil_iff.1 hempty m hm hconcerns
  | some x =>
    rw [hlast, Option.some_or] at hstands
    cases hstands
    have hx := hfailure _ (List.mem_filter.1 (List.mem_of_getLast? hlast)).1
    cases hx

/-- A new failure stands, and is the last of all. -/
theorem stands_concat (log : List LoadMark) (d : Direction) (e : FetchError) :
    Stands (log ++ [.failed d e]) d e := by
  simp [Stands, LoadMark.concerns]

theorem latest_concat_iff :
    Latest (log ++ [.failed d e]) d' e' ↔ d' = d ∧ e' = e := by
  simp [Latest, LoadMark.isFailure, eq_comm]

namespace Session

variable {s s' x y a b : Session} {m : Move} {c : Command} {ev : Event} {es queue more : List Event}
  {h : List (Session × Move)}

/-! ## The log of a run -/

/-- What a command means for failed requests when it is carried out. -/
def mark? (s : Session) : Command → Option LoadMark
  | .fetch d => some (.requested d)
  | .fetchFailed d e => some (.failed d e)
  | .getMostRecent => if s.feed.jumpToLatest.2 = .replaced then some .exchanged else none
  | .dismissUnread => none

/-- What the commands that were carried out mean for failed requests. -/
def marks (carried : List (Session × Command)) : List LoadMark :=
  carried.filterMap fun p => p.1.mark? p.2

/-- A page that a move has the session hear of. -/
def heardPage (s : Session) : Move → List LoadMark
  | .hearResult =>
    match s.results with
    | (d, .loaded _) :: _ => [.loaded d]
    | _ => []
  | _ => []

/-- What bore on failed requests in the course of a run, in its order. -/
def loadLog : List (Session × Move) → List LoadMark
  | [] => []
  | (s, m) :: h => loadLog h ++ s.heardPage m ++ marks (s.carriedOut m)

/-- What commands other than a jump mean does not depend on the session. -/
theorem marks_carriedAll (replaced : Bool) {cs : List Command} (hjump : .getMostRecent ∉ cs) :
    marks (s.carriedAll replaced cs) =
      (cs.filter fun c => !(replaced && c.isFetch)).filterMap x.mark? := by
  rw [← map_snd_carriedAll (s := s) replaced hjump, List.filterMap_map, marks]
  refine List.filterMap_congr fun p hp => ?_
  obtain ⟨hc, -⟩ := frame_of_mem_carriedAll hjump hp
  obtain ⟨y, c⟩ := p
  cases c with
  | getMostRecent => exact absurd hc hjump
  | _ => rfl

/-- A jump that replaces the loaded part drops the requests made along with it. -/
theorem marks_carriedAll_jump {cs : List Command} (hjump : .getMostRecent ∉ cs)
    (hfailed : ∀ d e, .fetchFailed d e ∉ cs) :
    marks (s.carriedAll false (.getMostRecent :: cs)) =
      if s.feed.jumpToLatest.2 = .replaced then [.exchanged] else cs.filterMap x.mark? := by
  rw [carriedAll_cons _ _ _ _ rfl, marks, List.filterMap_cons, ← marks, mark?]
  cases hpage : s.feed.jumpToLatest.2 with
  | replaced =>
    rw [execute_of_replaced hpage, if_pos rfl, if_pos rfl]
    refine congrArg (.exchanged :: ·) ((marks_carriedAll true hjump (x := x)).trans ?_)
    rw [List.filterMap_eq_nil_iff]
    intro c hc
    obtain ⟨hc, hfetch⟩ := List.mem_filter.1 hc
    cases c with
    | dismissUnread => rfl
    | getMostRecent => exact absurd hc hjump
    | fetchFailed d e => exact absurd hc (hfailed d e)
    | fetch d => cases hfetch
  | extended added =>
    have hne : ¬ LatestPage.extended added = .replaced := LatestPage.noConfusion
    rw [execute_of_extended hpage, if_neg hne, if_neg hne]
    have hupdate : (Event.update == .reset) = false := by decide
    by_cases hadded : added = 0
    · rw [if_pos hadded]
      simpa using marks_carriedAll (x := x) false hjump
    · rw [if_neg hadded]
      simpa [hupdate] using marks_carriedAll (x := x) false hjump

/-! ## One event -/

/-- Commands that report no failure and ask for no newest page leave the failure that is
remembered. -/
theorem executeAll_failure (s : Session) (replaced : Bool) {cs : List Command}
    (hjump : .getMostRecent ∉ cs) (hfailed : ∀ d e, .fetchFailed d e ∉ cs) :
    (s.executeAll replaced cs).1.failure = s.failure := by
  induction cs generalizing s replaced with
  | nil => rfl
  | cons c rest ih =>
    obtain ⟨hc, hrest⟩ := not_or.1 (mt List.mem_cons.2 hjump)
    have hlater (s : Session) (replaced : Bool) :
        (s.executeAll replaced rest).1.failure = s.failure :=
      ih s replaced hrest fun d e hmem => hfailed d e (List.mem_cons_of_mem _ hmem)
    by_cases hdrop : (replaced && c.isFetch) = true
    · rw [executeAll, if_pos hdrop]
      exact hlater s replaced
    · rw [executeAll_cons s replaced c rest (eq_false_of_ne_true hdrop)]
      refine (hlater _ _).trans ?_
      cases c with
      | getMostRecent => exact absurd rfl hc
      | fetchFailed d e => exact absurd (List.mem_cons_self ..) (hfailed d e)
      | _ => rfl

/-- A jump that replaces the loaded part leaves no failure to be remembered. -/
theorem executeAll_failure_jump (s : Session) {cs : List Command} (hjump : .getMostRecent ∉ cs)
    (hfailed : ∀ d e, .fetchFailed d e ∉ cs) :
    (s.executeAll false (.getMostRecent :: cs)).1.failure =
      if s.feed.jumpToLatest.2 = .replaced then none else s.failure := by
  rw [executeAll_cons _ _ _ _ rfl, executeAll_failure _ _ hjump hfailed]
  cases hpage : s.feed.jumpToLatest.2 with
  | replaced => rw [execute_of_replaced hpage, if_pos rfl]
  | extended added =>
    have hne : ¬ LatestPage.extended added = .replaced := LatestPage.noConfusion
    rw [execute_of_extended hpage, if_neg hne]

theorem requested_mem_iff {cs : List Command} :
    .requested d ∈ cs.filterMap s.mark? ↔ .fetch d ∈ cs := by
  rw [List.mem_filterMap]
  constructor
  · rintro ⟨c, hc, hmark⟩
    cases c with
    | fetch d' =>
      cases hmark
      exact hc
    | getMostRecent =>
      rw [mark?] at hmark
      split at hmark <;> cases hmark
    | _ => cases hmark
  · exact fun hc => ⟨_, hc, rfl⟩

/-- Commands that report no failure and ask for no newest page mean nothing but requests. -/
theorem exists_requested {cs : List Command} (hjump : .getMostRecent ∉ cs)
    (hfailed : ∀ d e, .fetchFailed d e ∉ cs) :
    ∀ mark ∈ cs.filterMap s.mark?, ∃ d, mark = .requested d := by
  intro mark hmark
  obtain ⟨c, hc, hmark⟩ := List.mem_filterMap.1 hmark
  cases c with
  | fetch d =>
    cases hmark
    exact ⟨d, rfl⟩
  | getMostRecent => exact absurd hc hjump
  | fetchFailed d e => exact absurd hc (hfailed d e)
  | dismissUnread => cases hmark

/-- What one event means for failed requests: the window takes notice of a failure, or the loaded
part is exchanged, or pages are asked for. -/
inductive Marked (x : Session) (ev : Event) (y : Session) : List LoadMark → Prop
  | failed (d : Direction) (e : FetchError) : ev = .settled d (.failed e) →
      y.failure = some (d, e) → y.gate d = .idle → Marked x ev y [.failed d e]
  | exchanged : ev = .jumpToLatest → y.failure = none → Marked x ev y [.exchanged]
  | requested (ms : List LoadMark) : x.replaces ev = false →
      (∀ d e, ev = .settled d (.failed e) → x.heeds d (.failed e) = false) →
      y.failure = x.failure →
      (∀ mark ∈ ms, ∃ d, mark = .requested d) →
      (∀ d, .requested d ∉ ms ∧ y.gate d = (x.begun ev).gate d ∨
        .requested d ∈ ms ∧ y.gate d = .pending) → Marked x ev y ms

/-- A failure that the window waits for is reported, and opens the gate. -/
theorem step_failed {st : WindowState} {inp : Inputs}
    (haccepts : st.accepts (.settled d (.failed e)) = true) (hgate : st.gate d = .pending) :
    step st (.settled d (.failed e)) inp = .ok ⟨st.setGate d .idle, [.fetchFailed d e]⟩ := by
  rw [step, if_pos haccepts, Progress.handle, Progress.settled.eq_def,
    if_neg (not_not_intro hgate)]
  rfl

/-- Nothing else is reported. -/
theorem fetchFailed_not_mem {st : WindowState} {inp : Inputs} {t : Transition}
    (haccepts : st.accepts ev = true)
    (hev : ∀ d e, ev = .settled d (.failed e) → st.gate d ≠ .pending)
    (ht : step st ev inp = .ok t) :
    ∀ d e, .fetchFailed d e ∉ t.effects.filterMap Effect.command? := by
  intro d e hmem
  obtain ⟨es, hes, hkinds⟩ := step_effects haccepts ht
  rw [fetchFailed_mem_commands, hes, List.mem_append] at hmem
  rcases hmem with hfirst | hlater
  · unfold WindowState.firstEffects at hfirst
    split at hfirst
    · simp at hfirst
    · rw [if_neg (hev _ _ rfl)] at hfirst
      cases hfirst
    · cases hfirst
  · rcases hkinds _ hlater with hlocal | ⟨d, hfetch⟩
    · cases hlocal
    · cases hfetch

/-- The gates after a transition tell of the requests among its commands. -/
theorem gate_of_commands {t : Transition} {cs : List Command}
    (haccepts : x.window.state.accepts ev = true) (hr : x.replaces ev = false)
    (ht : step x.window.state ev (x.window.inputs x.graph x.unread x.now) = .ok t)
    (hcount : ∀ d, t.effects.count (.fetch d) = cs.count (.fetch d)) (d : Direction) :
    .requested d ∉ cs.filterMap s.mark? ∧ t.state.gate d = (x.begun ev).gate d ∨
      .requested d ∈ cs.filterMap s.mark? ∧ t.state.gate d = .pending := by
  rw [requested_mem_iff]
  rcases step_gate haccepts ht d with ⟨hsame, hnone⟩ | ⟨-, hpending, hone⟩
  · refine .inl ⟨List.count_eq_zero.1 ((hcount d).symm.trans hnone), ?_⟩
    rw [gate, state_begun haccepts hr]
    exact hsame
  · refine .inr ⟨List.count_pos_iff.1 ?_, hpending⟩
    rw [← hcount d, hone]
    exact Nat.one_pos

/-- An event of which the window takes no notice means nothing. -/
theorem carriedBy_of_not_accepts (hno : x.window.state.accepts ev = false) :
    x.carriedBy ev = [] := by
  have ht : step x.window.state ev (x.window.inputs x.graph x.unread x.now) =
      .ok ⟨x.window.state, []⟩ := by
    rw [step, hno]
    rfl
  rw [carriedBy, ht]
  rfl

/-- The commands of an event are those of a transition that leaves the gates as they will be. -/
theorem exists_transition (hh : x.handle ev = .ok (y, more)) : ∃ t,
    step x.window.state ev (x.window.inputs x.graph x.unread x.now) = .ok t ∧
      (x.moved t).executeAll false (t.effects.filterMap Effect.command?) = (y, more) ∧
      x.carriedBy ev = (x.moved t).carriedAll false (t.effects.filterMap Effect.command?) ∧
      ∀ d, y.gate d = t.state.gate d := by
  obtain ⟨t, ht, hexec⟩ := handle_eq_ok.1 hh
  have hwindow := executeAll_window (x.moved t) false (t.effects.filterMap Effect.command?)
  rw [hexec] at hwindow
  refine ⟨t, ht, hexec, by simp only [carriedBy, ht], fun d => ?_⟩
  rw [gate, hwindow]
  rfl

theorem marked_of_not_accepts (hno : x.window.state.accepts ev = false)
    (hh : x.handle ev = .ok (y, more)) : Marked x ev y (marks (x.carriedBy ev)) := by
  obtain ⟨rfl, -⟩ := handle_of_not_accepts hno hh
  rw [carriedBy_of_not_accepts hno]
  refine .requested [] ?_ ?_ rfl (by simp) fun d => .inl ⟨List.not_mem_nil, ?_⟩
  · rw [replaces, hno, Bool.and_false, Bool.false_and]
  · rintro d e rfl
    rw [heeds, hno, Bool.false_and]
  · rw [begun_of_not_accepts hno]

theorem marked_failed (haccepts : x.window.state.accepts (.settled d (.failed e)) = true)
    (hpending : x.gate d = .pending) (hh : x.handle (.settled d (.failed e)) = .ok (y, more)) :
    Marked x (.settled d (.failed e)) y (marks (x.carriedBy (.settled d (.failed e)))) := by
  obtain ⟨t, ht, hexec, hcarried, hgate⟩ := exists_transition hh
  rw [step_failed haccepts hpending] at ht
  cases ht
  cases hexec
  rw [hcarried]
  exact .failed d e rfl rfl ((hgate d).trans (WindowState.gate_setGate _ _ _))

theorem marked_jump (haccepts : x.window.state.accepts .jumpToLatest = true)
    (hh : x.handle .jumpToLatest = .ok (y, more)) :
    Marked x .jumpToLatest y (marks (x.carriedBy .jumpToLatest)) := by
  obtain ⟨t, ht, hexec, hcarried, hgate⟩ := exists_transition hh
  obtain ⟨cs, hcommands, hrest, hcount⟩ := exists_jump_commands haccepts ht
  have hfailed (d : Direction) (e : FetchError) : .fetchFailed d e ∉ cs := fun hmem =>
    fetchFailed_not_mem haccepts (by simp) ht d e (hcommands ▸ List.mem_cons_of_mem _ hmem)
  have hkept := executeAll_failure_jump (x.moved t) hrest hfailed
  rw [← hcommands, hexec] at hkept
  rw [hcarried, hcommands, marks_carriedAll_jump hrest hfailed (x := x)]
  have hsame : (x.moved t).feed = x.feed := rfl
  rw [hsame] at hkept ⊢
  by_cases hpage : x.feed.jumpToLatest.2 = .replaced
  · rw [if_pos hpage] at hkept ⊢
    exact .exchanged rfl hkept
  · have hr : x.replaces .jumpToLatest = false :=
      eq_false_of_ne_true fun hr => hpage (replaces_iff.1 hr).2.2
    rw [if_neg hpage] at hkept ⊢
    refine .requested _ hr (by simp) hkept (exists_requested hrest hfailed) ?_
    simp only [hgate]
    exact gate_of_commands haccepts hr ht hcount

/-- **What one event does to the failure that is remembered**, and to the gates. -/
theorem handle_marks (hh : x.handle ev = .ok (y, more)) :
    Marked x ev y (marks (x.carriedBy ev)) := by
  cases haccepts : x.window.state.accepts ev with
  | false => exact marked_of_not_accepts haccepts hh
  | true =>
    by_cases hev : ∃ d e, ev = .settled d (.failed e) ∧ x.gate d = .pending
    · obtain ⟨d, e, rfl, hpending⟩ := hev
      exact marked_failed haccepts hpending hh
    · by_cases hjump : ev = .jumpToLatest
      · subst hjump
        exact marked_jump haccepts hh
      · obtain ⟨t, ht, hexec, hcarried, hgate⟩ := exists_transition hh
        have hfailed := fetchFailed_not_mem haccepts
          (fun d e heq hpending => hev ⟨d, e, heq, hpending⟩) ht
        have hpassed (d : Direction) (e : FetchError) (heq : ev = .settled d (.failed e)) :
            x.heeds d (.failed e) = false := by
          rw [← Bool.not_eq_true, heeds_iff]
          exact fun hheeds => hev ⟨d, e, heq, hheeds.2⟩
        have hnot := getMostRecent_not_mem_commands hjump haccepts ht
        have hkept := executeAll_failure (x.moved t) false hnot hfailed
        rw [hexec] at hkept
        rw [hcarried, marks_carriedAll false hnot (x := x)]
        simp only [Bool.false_and, Bool.not_false, List.filter_true]
        refine .requested _ (replaces_of_ne hjump) hpassed hkept (exists_requested hnot hfailed) ?_
        simp only [hgate]
        exact gate_of_commands haccepts (replaces_of_ne hjump) ht
          fun d => (count_fetch_commands _ d).symm

/-- By itself an event closes no open gate. -/
theorem gate_begun_of_idle (hr : x.replaces ev = false) (hidle : x.gate d = .idle) :
    (x.begun ev).gate d = .idle := by
  cases haccepts : x.window.state.accepts ev with
  | false => rwa [begun_of_not_accepts haccepts]
  | true =>
    rw [gate, state_begun haccepts hr]
    exact WindowState.begun_gate_of_idle hidle

/-- An event that is about no page request leaves the gates. -/
theorem gate_begun_of_leavesGates (hr : x.replaces ev = false) (hev : ev.leavesGates = true) :
    (x.begun ev).gate d = x.gate d := by
  cases haccepts : x.window.state.accepts ev with
  | false => rw [begun_of_not_accepts haccepts]
  | true =>
    rw [gate, state_begun haccepts hr]
    exact WindowState.begun_gate hev d

/-- A retry of a window on screen asks for a page through an open gate. -/
theorem gate_of_retry (hmounted : x.window.state.isMounted = true) (hidle : x.gate d = .idle)
    (hh : x.handle (.retry d) = .ok (y, more)) : y.gate d = .pending := by
  obtain ⟨t, ht, hwindow, -⟩ := handle_transition hh
  rw [step, if_pos (WindowState.accepts_of_isMounted hmounted _)] at ht
  cases ht
  have hopen : (⟨x.window.state, [], x.window.viewport.offset x.graph⟩ : Progress).state.gate d =
      .idle := hidle
  rw [gate, hwindow]
  exact (Progress.requestIfIdle_of_idle hopen).pending

/-! ## The memory under a queue -/

/-- What is remembered of failed requests, up to the events in a queue. A result in the queue has
nothing but updates around it, and if it is a page, its direction is forgiven; and no failure is
remembered when the loaded part has been exchanged. -/
structure Remembers (log : List LoadMark) (queue : List Event) (s : Session) : Prop where
  kept : s.window.state.isMounted = true → ∀ d e, Latest log d e → Stands log d e →
    s.gate d = .idle ∧ (s.failure = some (d, e) ∨ .retry d ∈ queue)
  noted : ∀ d e, s.failure = some (d, e) →
    Latest log d e ∧ (Stands log d e ∨ s.gate d = .pending)
  fresh : s.window.state.scroll = .initializing → ∀ d e, ¬ Latest log d e
  results : ∀ d r rest, queue.Perm (.settled d r :: rest) →
    (∀ ev ∈ rest, ev = .update) ∧ (r.isLoaded = true → s.hasFailed d = false)
  reset : .reset ∈ queue → s.failure = none

theorem Remembers.perm {queue' : List Event} (hs : Remembers log queue s)
    (hperm : queue.Perm queue') : Remembers log queue' s where
  kept := fun hm d e hl hst =>
    ⟨(hs.kept hm d e hl hst).1, (hs.kept hm d e hl hst).2.imp_right hperm.mem_iff.1⟩
  noted := hs.noted
  fresh := hs.fresh
  results := fun d r rest h => hs.results d r rest (hperm.trans h)
  reset := fun h => hs.reset (hperm.mem_iff.2 h)

/-- Requests are no failures, and bear on no direction but their own. -/
theorem isFailure_of_requested (hms : ∀ mark ∈ ms, ∃ d, mark = .requested d) :
    ∀ mark ∈ ms, mark.isFailure = false := by
  intro mark hmark
  obtain ⟨d, rfl⟩ := hms mark hmark
  rfl

theorem concerns_of_requested (hms : ∀ mark ∈ ms, ∃ d, mark = .requested d)
    (hnot : .requested d ∉ ms) : ∀ mark ∈ ms, mark.concerns d = false := by
  intro mark hmark
  obtain ⟨d', rfl⟩ := hms mark hmark
  refine decide_eq_false ?_
  rintro rfl
  exact hnot hmark

/-- The last failure of all stays at hand while it stands. -/
theorem Remembers.handle_kept (hx : Remembers log (ev :: queue) x)
    (hh : x.handle ev = .ok (y, more)) (hy : y.window.state.isMounted = true)
    (hlatest : Latest (log ++ marks (x.carriedBy ev)) d e)
    (hstands : Stands (log ++ marks (x.carriedBy ev)) d e) :
    y.gate d = .idle ∧ (y.failure = some (d, e) ∨ .retry d ∈ more ++ queue) := by
  have hmarks := handle_marks hh
  generalize marks (x.carriedBy ev) = ms at hmarks hlatest hstands
  cases hmarks with
  | failed d₀ e₀ _ hfailure hgate =>
    obtain ⟨rfl, rfl⟩ := latest_concat_iff.1 hlatest
    exact ⟨hgate, .inl hfailure⟩
  | exchanged _ _ =>
    exact absurd hstands (not_stands_append (List.mem_singleton_self _) rfl (by simp
      [LoadMark.isFailure]))
  | requested _ hr _ hfailure hms hgates =>
    have hnone := isFailure_of_requested hms
    have hnot : .requested d ∉ ms := fun hmem =>
      not_stands_append hmem (decide_eq_true rfl) hnone hstands
    have hlatest := (latest_append hnone).1 hlatest
    have hstands := (stands_append (concerns_of_requested hms hnot)).1 hstands
    have hmount : ev = .mount → x.window.state.scroll ≠ .initializing := fun _ hinit =>
      hx.fresh hinit d e hlatest
    have hmounted := isMounted_of_handle hh hmount hy
    obtain ⟨hidle, hmemory⟩ := hx.kept hmounted d e hlatest hstands
    have hopen : y.gate d = .idle := by
      rcases hgates d with ⟨-, hsame⟩ | ⟨hmem, -⟩
      · exact hsame.trans (gate_begun_of_idle hr hidle)
      · exact absurd hmem hnot
    refine ⟨hopen, ?_⟩
    rcases hmemory with hfailed | hmem
    · exact .inl (hfailure.trans hfailed)
    · rcases List.mem_cons.1 hmem with rfl | hqueue
      · -- a retry closes the gate
        rw [gate_of_retry hmounted hidle hh] at hopen
        cases hopen
      · exact .inr (List.mem_append_right _ hqueue)

/-- What is remembered is the last failure of all, and its direction has not got beyond it but by a
new request. -/
theorem Remembers.handle_noted (hx : Remembers log (ev :: queue) x)
    (hh : x.handle ev = .ok (y, more)) (hfailed : y.failure = some (d, e)) :
    Latest (log ++ marks (x.carriedBy ev)) d e ∧
      (Stands (log ++ marks (x.carriedBy ev)) d e ∨ y.gate d = .pending) := by
  have hmarks := handle_marks hh
  generalize marks (x.carriedBy ev) = ms at hmarks ⊢
  cases hmarks with
  | failed d₀ e₀ _ hfailure _ =>
    rw [hfailure] at hfailed
    cases hfailed
    exact ⟨latest_concat_iff.2 ⟨rfl, rfl⟩, .inl (stands_concat log d e)⟩
  | exchanged _ hnone =>
    rw [hnone] at hfailed
    cases hfailed
  | requested _ hr hpassed hfailure hms hgates =>
    have hremembered : x.failure = some (d, e) := hfailure.symm.trans hfailed
    obtain ⟨hlatest, hstood⟩ := hx.noted d e hremembered
    refine ⟨(latest_append (isFailure_of_requested hms)).2 hlatest, ?_⟩
    rcases hgates d with ⟨hnot, hsame⟩ | ⟨-, hpending⟩
    · refine hstood.imp (stands_append (concerns_of_requested hms hnot)).2 fun hpending => ?_
      rw [hsame, ← hpending]
      cases ev with
      | settled d' r =>
        rw [gate_begun_settled, if_neg]
        rintro ⟨rfl, hheeds⟩
        cases r with
        | failed e' =>
          rw [hpassed _ _ rfl] at hheeds
          cases hheeds
        | loaded outcome =>
          have hforgiven := (hx.results _ _ _ (List.Perm.refl _)).2 rfl
          simp [hasFailed, hremembered] at hforgiven
      | reset =>
        rw [hx.reset (List.mem_cons_self ..)] at hremembered
        cases hremembered
      | _ => exact gate_begun_of_leavesGates hr rfl
    · exact .inr hpending

/-- Nothing has failed before a window comes on screen. -/
theorem Remembers.handle_fresh (hx : Remembers log (ev :: queue) x)
    (hh : x.handle ev = .ok (y, more)) (hy : y.window.state.scroll = .initializing) :
    ¬ Latest (log ++ marks (x.carriedBy ev)) d e := by
  cases haccepts : x.window.state.accepts ev with
  | false =>
    obtain ⟨rfl, -⟩ := handle_of_not_accepts haccepts hh
    rw [carriedBy_of_not_accepts haccepts, marks, List.filterMap_nil, List.append_nil]
    exact hx.fresh hy d e
  | true =>
    obtain ⟨t, ht, hwindow, -⟩ := handle_transition hh
    rw [hwindow] at hy
    have htorn : ev = .teardown := by
      by_contra hne
      exact step_scroll haccepts hne ht hy
    subst htorn
    rw [step_teardown haccepts ht] at hy
    have hmarks := handle_marks hh
    generalize marks (x.carriedBy .teardown) = ms at hmarks ⊢
    cases hmarks with
    | failed _ _ hev => cases hev
    | exchanged hev => cases hev
    | requested _ _ _ _ hms _ =>
      rw [latest_append (isFailure_of_requested hms)]
      exact hx.fresh hy d e

/-- A result in the queue still has nothing but updates around it. -/
theorem Remembers.handle_results (hx : Remembers log (ev :: queue) x)
    (hh : x.handle ev = .ok (y, more)) {r : FetchResult} {rest : List Event}
    (hperm : (more ++ queue).Perm (.settled d r :: rest)) :
    (∀ ev' ∈ rest, ev' = .update) ∧ (r.isLoaded = true → y.hasFailed d = false) := by
  have hqueue : .settled d r ∈ queue := by
    rcases List.mem_append.1 (hperm.mem_iff.2 (List.mem_cons_self ..)) with hmore | hqueue
    · rcases (handle_load hh).2 _ hmore with heq | heq <;> cases heq
    · exact hqueue
  obtain ⟨before, after, rfl⟩ := List.append_of_mem hqueue
  have haround : (ev :: (before ++ .settled d r :: after)).Perm
      (.settled d r :: ev :: (before ++ after)) :=
    (List.perm_middle.cons ev).trans (List.Perm.swap ..)
  obtain ⟨hupdates, hforgiven⟩ := hx.results d r _ haround
  obtain rfl := hupdates ev (List.mem_cons_self ..)
  obtain ⟨-, n, rfl, -⟩ := handle_asks (replaces_of_ne Event.noConfusion) hh
  have hrest : rest.Perm (List.replicate n .update ++ (before ++ after)) := by
    refine List.Perm.cons_inv (hperm.symm.trans ?_)
    rw [← List.append_assoc, ← List.append_assoc]
    exact List.perm_middle
  constructor
  · intro ev' hev'
    rcases List.mem_append.1 (hrest.mem_iff.1 hev') with hmore | hold
    · exact List.eq_of_mem_replicate hmore
    · exact hupdates ev' (List.mem_cons_of_mem _ hold)
  · intro hloaded
    have hmarks := handle_marks hh
    generalize marks (x.carriedBy .update) = ms at hmarks
    cases hmarks with
    | failed _ _ hev => cases hev
    | exchanged hev => cases hev
    | requested _ _ _ hfailure _ _ =>
      rw [hasFailed, hfailure]
      exact hforgiven hloaded

/-- No failure is remembered when the loaded part has been exchanged. -/
theorem Remembers.handle_reset (hx : Remembers log (ev :: queue) x)
    (hh : x.handle ev = .ok (y, more)) (hmem : .reset ∈ more ++ queue) : y.failure = none := by
  have hmarks := handle_marks hh
  generalize marks (x.carriedBy ev) = ms at hmarks
  cases hmarks with
  | failed d e hev _ _ =>
    subst hev
    obtain ⟨-, n, rfl, -⟩ := handle_asks (replaces_of_ne Event.noConfusion) hh
    rcases List.mem_append.1 hmem with hmore | hqueue
    · cases List.eq_of_mem_replicate hmore
    · cases (hx.results _ _ _ (List.Perm.refl _)).1 _ hqueue
  | exchanged _ hnone => exact hnone
  | requested _ hr _ hfailure _ _ =>
    obtain ⟨-, n, rfl, -⟩ := handle_asks hr hh
    rcases List.mem_append.1 hmem with hmore | hqueue
    · cases List.eq_of_mem_replicate hmore
    · exact hfailure.trans (hx.reset (List.mem_cons_of_mem _ hqueue))

/-- **One event keeps the memory of failed requests.** -/
theorem Remembers.handle (hx : Remembers log (ev :: queue) x)
    (hh : x.handle ev = .ok (y, more)) :
    Remembers (log ++ marks (x.carriedBy ev)) (more ++ queue) y where
  kept := fun hy _ _ => hx.handle_kept hh hy
  noted := fun _ _ => hx.handle_noted hh
  fresh := fun hy _ _ => hx.handle_fresh hh hy
  results := fun _ _ _ => hx.handle_results hh
  reset := hx.handle_reset hh

/-! ## Moves -/

theorem carriedWithin_eq (fuel : Nat) (queue : List Event) (s : Session) :
    carriedWithin fuel queue s =
      (handledWithin fuel queue s).flatMap fun p => p.1.carriedBy p.2 := by
  induction fuel generalizing queue s with
  | zero => rfl
  | succ fuel ih =>
    cases queue with
    | nil => rfl
    | cons ev rest =>
      rw [carriedWithin, handledWithin, List.flatMap_cons]
      cases s.handle ev with
      | ok p => exact congrArg (s.carriedBy ev ++ ·) (ih _ _)
      | error fault => rfl

/-- The commands that are carried out are those of the events that are handled. -/
theorem carriedTelling_eq (s : Session) (es : List Event) :
    s.carriedTelling es = (s.handledTelling es).flatMap fun p => p.1.carriedBy p.2 := by
  induction es generalizing s with
  | nil => rfl
  | cons ev es ih =>
    rw [carriedTelling, handledTelling, List.flatMap_append, carriedWithin_eq]
    cases s.dispatch ev with
    | ok s' => exact congrArg (_ ++ ·) (ih s')
    | error fault => rfl

theorem marks_append (xs ys : List (Session × Command)) : marks (xs ++ ys) = marks xs ++ marks ys :=
  List.filterMap_append

theorem Remembers.tell (ha : Remembers log es a) (hb : a.tell es = .ok b) :
    Remembers (log ++ marks (a.carriedTelling es)) [] b := by
  rw [carriedTelling_eq]
  refine tell_trace (P := fun seen queue x =>
    Remembers (log ++ marks (seen.flatMap fun p => p.1.carriedBy p.2)) queue x) [] ?_ ?_ ?_ hb
  · intro seen queue queue' x hperm hx
    exact hx.perm hperm
  · intro seen ev queue x y more hh hx
    rw [List.flatMap_append, List.flatMap_singleton, marks_append, ← List.append_assoc]
    exact hx.handle hh
  · simpa [marks] using ha

theorem heardPage_of_ne (hne : m ≠ .hearResult) : s.heardPage m = [] := by
  cases m with
  | hearResult => exact absurd rfl hne
  | _ => rfl

/-- A result is a page that is heard of, unless it is a failure. -/
theorem heardPage_of_results {r : FetchResult} {rest : List (Direction × FetchResult)}
    (hresults : s.results = (d, r) :: rest) :
    s.heardPage .hearResult = if r.isLoaded then [.loaded d] else [] := by
  rw [heardPage, hresults]
  cases r <;> rfl

/-- A queue of events is told. -/
theorem Remembers.queues (hs : Remembers log [] s) (hstate : a.window.state = s.window.state)
    (hfailure : a.failure = s.failure)
    (hresults : ∀ d r rest, es.Perm (.settled d r :: rest) →
      (∀ ev ∈ rest, ev = .update) ∧ (r.isLoaded = true → a.hasFailed d = false))
    (hreset : .reset ∉ es) : Remembers log es a where
  kept := fun hm d e hl hst => by
    obtain ⟨hidle, hfailed | hmem⟩ := hs.kept (hstate ▸ hm) d e hl hst
    · refine ⟨?_, .inl (hfailure.trans hfailed)⟩
      rw [gate, hstate]
      exact hidle
    · cases hmem
  noted := fun d e hf => by
    rw [gate, hstate]
    exact hs.noted d e (hfailure.symm.trans hf)
  fresh := fun hinit => hs.fresh (hstate ▸ hinit)
  results := hresults
  reset := fun hmem => absurd hmem hreset

/-- A failure that is taken to be retried is on its way to the window. -/
theorem Remembers.retries (hs : Remembers log [] s) (hstate : a.window.state = s.window.state)
    (hfailed : s.failure = some (d, e)) (hnone : a.failure = none) :
    Remembers log [.retry d] a where
  kept := fun hm d' e' hl hst => by
    obtain ⟨hidle, hsame | hmem⟩ := hs.kept (hstate ▸ hm) d' e' hl hst
    · cases hfailed.symm.trans hsame
      refine ⟨?_, .inr (List.mem_singleton_self _)⟩
      rw [gate, hstate]
      exact hidle
    · cases hmem
  noted := fun d' e' hf => by
    rw [hnone] at hf
    cases hf
  fresh := fun hinit => hs.fresh (hstate ▸ hinit)
  results := fun d' r rest hperm => by
    cases List.mem_singleton.1 (hperm.mem_iff.2 (List.mem_cons_self ..))
  reset := fun _ => hnone

/-- A page that is heard of forgives the failure of its direction. -/
theorem Remembers.forgives (hs : Remembers log [] s) (hstate : a.window.state = s.window.state)
    (hfailure : a.failure = if s.hasFailed d then none else s.failure) :
    Remembers (log ++ [.loaded d]) [] a := by
  have hnone : ∀ mark ∈ [LoadMark.loaded d], mark.isFailure = false := by simp [LoadMark.isFailure]
  have hother (d' : Direction) (hne : d ≠ d') :
      ∀ mark ∈ [LoadMark.loaded d], mark.concerns d' = false := by
    simpa [LoadMark.concerns] using hne
  constructor
  · intro hm d' e' hl hst
    have hne : d ≠ d' := by
      rintro rfl
      exact not_stands_append (m := .loaded d) (List.mem_singleton_self _) (decide_eq_true rfl)
        hnone hst
    obtain ⟨hidle, hsame | hmem⟩ := hs.kept (hstate ▸ hm) d' e' ((latest_append hnone).1 hl)
      ((stands_append (hother d' hne)).1 hst)
    · refine ⟨?_, .inl ?_⟩
      · rw [gate, hstate]
        exact hidle
      · rw [hfailure, if_neg]
        · exact hsame
        · simpa [hasFailed, hsame] using hne.symm
    · cases hmem
  · intro d' e' hf
    rw [hfailure] at hf
    split at hf
    · cases hf
    · next hkept =>
      obtain ⟨hlatest, hstood⟩ := hs.noted d' e' hf
      rw [gate, hstate]
      refine ⟨(latest_append hnone).2 hlatest, ?_⟩
      refine hstood.imp_left (stands_append (hother d' fun heq => hkept ?_)).2
      simp [hasFailed, hf, heq]
  · exact fun hinit d' e' hl => hs.fresh (hstate ▸ hinit) d' e' ((latest_append hnone).1 hl)
  · intro d' r rest hperm
    simpa using hperm.length_eq
  · exact fun hmem => absurd hmem List.not_mem_nil

/-- A result is told after an update. -/
theorem eq_of_perm_update_settled {d' : Direction} {r r' : FetchResult} {rest : List Event}
    (hperm : [Event.update, .settled d r].Perm (.settled d' r' :: rest)) :
    (d' = d ∧ r' = r) ∧ ∀ ev ∈ rest, ev = .update := by
  have hmem := hperm.mem_iff.2 (List.mem_cons_self ..)
  obtain ⟨rfl, rfl⟩ : d' = d ∧ r' = r := by simpa using hmem
  have hrest : [Event.update].Perm rest := ((List.Perm.swap ..).trans hperm).cons_inv
  exact ⟨⟨rfl, rfl⟩, fun ev hev => List.mem_singleton.1 (hrest.mem_iff.2 hev)⟩

/-- **What a move changes by itself keeps the memory.** -/
theorem Remembers.told (hs : Remembers log [] s) (htold : s.told m = some (a, es)) :
    Remembers (log ++ s.heardPage m) es a := by
  have hstate := told_state htold
  cases told_recalls htold with
  | nothing _ hmove hfailure _ hresult hreset =>
    rw [heardPage_of_ne hmove, List.append_nil]
    refine hs.queues hstate hfailure (fun d r rest hperm => ?_) hreset
    exact absurd (hperm.mem_iff.2 (List.mem_cons_self ..)) (hresult d r)
  | retries d e hmove hfailed hnone =>
    rw [heardPage_of_ne hmove, List.append_nil]
    exact hs.retries hstate hfailed hnone
  | hears d r _ hmove hresults hfailure =>
    rw [hmove, heardPage_of_results hresults]
    have hreset : Event.reset ∉ [.update, .settled d r] := by simp
    cases hloaded : r.isLoaded with
    | false =>
      rw [hloaded, Bool.false_and, if_neg Bool.false_ne_true] at hfailure
      rw [if_neg Bool.false_ne_true, List.append_nil]
      refine hs.queues hstate hfailure (fun d' r' rest hperm => ?_) hreset
      obtain ⟨⟨-, rfl⟩, hrest⟩ := eq_of_perm_update_settled hperm
      refine ⟨hrest, fun hloaded' => ?_⟩
      rw [hloaded] at hloaded'
      cases hloaded'
    | true =>
      rw [hloaded, Bool.true_and] at hfailure
      rw [if_pos rfl]
      refine (hs.forgives hstate hfailure).queues rfl rfl (fun d' r' rest hperm => ?_) hreset
      obtain ⟨⟨rfl, -⟩, hrest⟩ := eq_of_perm_update_settled hperm
      refine ⟨hrest, fun _ => ?_⟩
      rw [hasFailed, hfailure]
      split
      · rfl
      · next hkept => exact eq_false_of_ne_true hkept

/-- **A move keeps the memory of failed requests.** -/
theorem Remembers.move (hs : Remembers log [] s) (hm : s.move m = some s') :
    Remembers (log ++ s.heardPage m ++ marks (s.carriedOut m)) [] s' := by
  obtain ⟨a, es, b, htold, htell, rfl⟩ := exists_told hm
  obtain ⟨tasks, started, heq⟩ := b.exists_settleMove_eq m
  have hb := (hs.told htold).tell htell
  rw [heq, carriedOut, htold]
  exact ⟨hb.kept, hb.noted, hb.fresh, hb.results, hb.reset⟩

theorem Started.remembers (hs : Started s) : Remembers [] [] s where
  kept := fun _ _ _ hl => absurd hl not_latest_nil
  noted := fun d e hf => by
    rw [hs.failure] at hf
    cases hf
  fresh := fun _ _ _ => not_latest_nil
  results := fun _ _ _ hperm => by simpa using hperm.length_eq
  reset := nofun

/-- In the course of every run, the failure that is remembered is the last of all. -/
theorem Run.remembers (hrun : Run h s) (hstart : Started (origin h s)) :
    Remembers (loadLog h) [] s := by
  induction hrun with
  | opened _ => exact hstart.remembers
  | move _ hm ih => exact (ih hstart).move hm

/-! ## What the reader is offered -/

/-- How a failure is told of below the messages. -/
def retryNotice (d : Direction) (e : FetchError) : String × Color :=
  ("Loading " ++ d.label ++ " messages failed: " ++ e.message ++ " · r to retry", .red)

/-- The reader is told of a failure and how to retry, and the retry key asks for the page again. -/
structure Offers (s : Session) (d : Direction) (e : FetchError) : Prop where
  failure : s.failure = some (d, e)
  status : s.status? = some (retryNotice d e)
  asks : ∃ s', s.move (.input (.key (.char 'r') false)) = some s' ∧
    s'.pageTasks d = s.pageTasks d + 1

/-- A retry asks for a page through an open gate. -/
theorem exists_dispatch_retry (hmounted : s.window.state.isMounted = true)
    (hidle : s.gate d = .idle) :
    ∃ s', s.dispatch (.retry d) = .ok s' ∧ s'.pageTasks d = s.pageTasks d + 1 := by
  have hopen : s.window.state.gate d = .idle := hidle
  have hstep : step s.window.state (.retry d) (s.window.inputs s.graph s.unread s.now) =
      .ok ⟨s.window.state.setGate d .pending, [.fetch d]⟩ := by
    rw [step, if_pos (WindowState.accepts_of_isMounted hmounted _), Progress.handle,
      Progress.requestIfIdle, if_pos hopen]
    rfl
  let y := (s.moved ⟨s.window.state.setGate d .pending, [.fetch d]⟩).start
    s.feed.config.settleTime (.page d)
  have hy : s.handle (.retry d) = .ok (y, []) := handle_eq_ok.2 ⟨_, hstep, rfl⟩
  refine ⟨y, ?_, (pageTasks_start_page _ _ d d).trans (by rw [if_pos rfl]; rfl)⟩
  rw [dispatch, wake, handleAll_succ, hy]
  rfl

/-- A failure through whose gate nothing has been asked for is offered. -/
theorem offers_of_failure (hmounted : s.window.state.isMounted = true) (hidle : s.gate d = .idle)
    (hfailure : s.failure = some (d, e)) : s.Offers d e := by
  have hmounted' : ({ s with failure := none } : Session).window.state.isMounted = true := hmounted
  obtain ⟨s', hdispatch, hasked⟩ := exists_dispatch_retry hmounted' (d := d) hidle
  refine ⟨hfailure, by rw [status?, hfailure]; rfl, s', ?_, hasked⟩
  have hretry : s.retry = .ok s' := by
    rw [retry, hfailure]
    exact hdispatch
  exact toOption_eq_some.2 hretry

/-- What is offered waits for the reader: its gate is open. -/
theorem Offers.gate (ho : s.Offers d e) : s.gate d = .idle := by
  obtain ⟨s', hm, hasked⟩ := ho.asks
  have hretry : s.retry = .ok s' := toOption_eq_some.1 hm
  rw [retry, ho.failure] at hretry
  have hasks := dispatch_asks hretry
  rcases hasks.gate d with hkeeps | hcloses
  · have hsame := hkeeps.pageTasks
    rw [pageTasks_begun, hasked] at hsame
    exact absurd hsame (Nat.succ_ne_self _)
  · have hidle := hcloses.was_idle
    rwa [gate_begun_of_leavesGates (replaces_of_ne Event.noConfusion) rfl] at hidle

/-- **The failure that is offered.** In every run, what a reader in front of the messages is told of
and can retry is the last failure of all, exactly as long as it stands: as long as no page of its
direction was asked for or heard of since, and the loaded part was not exchanged. -/
theorem offers_iff (hrun : Run h s) (hstart : Started (origin h s))
    (hmounted : s.window.state.isMounted = true) :
    s.Offers d e ↔ Stands (loadLog h) d e ∧ Latest (loadLog h) d e := by
  have hs := hrun.remembers hstart
  constructor
  · intro ho
    obtain ⟨hlatest, hstands | hpending⟩ := hs.noted d e ho.failure
    · exact ⟨hstands, hlatest⟩
    · rw [ho.gate] at hpending
      cases hpending
  · rintro ⟨hstands, hlatest⟩
    obtain ⟨hidle, hfailure | hmem⟩ := hs.kept hmounted d e hlatest hstands
    · exact offers_of_failure hmounted hidle hfailure
    · cases hmem

/-- Of two failures, the later one is offered. -/
theorem offers_iff_later : ∃ h s, Run h s ∧ Started (origin h s) ∧
    s.window.state.isMounted = true ∧
    (∃ e, Stands (loadLog h) .older e) ∧ ∃ e, s.Offers .newer e := by
  obtain ⟨h, s, hrun, hs⟩ := exists_run_of_trial
    { messages := 9, pageSize := 2, timeout := some 1 }
    [.mount 10, .perform 1, .perform 0, .hearResult, .hearResult]
    (fun h s => decide ((origin h s).failure = none ∧ 0 < (origin h s).feed.config.pageSize ∧
      s.window.state.isMounted = true ∧ Stands (loadLog h) .older .timeout ∧
      Stands (loadLog h) .newer .timeout ∧ Latest (loadLog h) .newer .timeout))
    (by decide +kernel)
  obtain ⟨hfailure, hpage, hmounted, holder, hnewer⟩ := of_decide_eq_true hs
  have hstart : Started (origin h s) :=
    { hrun.opened_origin with failure := hfailure, pageSize := hpage }
  exact ⟨h, s, hrun, hstart, hmounted, ⟨_, holder⟩, _,
    (offers_iff hrun hstart hmounted).2 hnewer⟩

/-- The failure of a direction is forgotten once that of the other one is retried. -/
theorem exists_failure_forgotten : ∃ h s d e, Run h s ∧ Started (origin h s) ∧
    s.window.state.isMounted = true ∧ s.results = [] ∧ s.news = [] ∧ Stands (loadLog h) d e ∧
    s.failure = none := by
  obtain ⟨h, s, hrun, hs⟩ := exists_run_of_trial
    { messages := 9, pageSize := 2, timeout := some 1 }
    [.mount 10, .perform 1, .perform 0, .hearResult, .hearResult,
      .input (.key (.char 'r') false)]
    (fun h s => decide ((origin h s).failure = none ∧ 0 < (origin h s).feed.config.pageSize ∧
      s.window.state.isMounted = true ∧ s.results = [] ∧ s.news = [] ∧
      Stands (loadLog h) .older .timeout ∧ s.failure = none))
    (by decide +kernel)
  obtain ⟨hfailure, hpage, hmounted, hresults, hnews, hstands, hnone⟩ := of_decide_eq_true hs
  exact ⟨h, s, .older, _, hrun,
    { hrun.opened_origin with failure := hfailure, pageSize := hpage }, hmounted, hresults, hnews,
    hstands, hnone⟩

end Session

end Scrollback
