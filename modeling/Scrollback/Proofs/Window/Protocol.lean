import Scrollback.Proofs.Window.Moments
import Scrollback.Proofs.Window.Retry
/-!
# The protocol of a gate

Three things bear on a gate while the window is on screen: a request for a page, the settlement of a
request that the window waits for, and an exchange of the loaded messages. A request finds the gate
idle, a settlement finds it pending, and an exchange opens it in any case. A run of transitions
keeps to this from a new window on, and everything about the order of requests follows from it.

## Main definitions

* `Mark` — one of the three things that bear on a gate.
* `Gate.pass`, `Gate.passAll` — the gate that they leave, where the protocol allows them.
* `Moment.marks`, `log` — what bears on the gate of a direction in a transition, and in a run.

## Main statements

* `passAll_marks`, `passAll_log` — a transition keeps to the protocol, and so does a run.
* `steps_gate_protocol` — requests are apart from each other, the gate tells which mark came last,
  and nothing is asked for once nothing is left to load.
-/

namespace Scrollback

/-- What bears on a gate. -/
inductive Mark where
  /-- A page is asked for. -/
  | request
  /-- A page that the window waits for has come, or cannot be had. -/
  | settlement (result : FetchResult)
  /-- The loaded messages are exchanged for others. -/
  | exchange
deriving DecidableEq

namespace Gate

/-- The gate that a mark leaves, if the protocol allows the mark there. -/
def pass : Gate → Mark → Option Gate
  | .idle, .request => some .pending
  | .pending, .settlement result => some result.gate
  | _, .exchange => some .idle
  | _, _ => none

/-- The gate that marks leave, if the protocol allows them one after the other. -/
def passAll (g : Gate) (marks : List Mark) : Option Gate := marks.foldlM pass g

variable {g g' : Gate} {x : Mark} {xs ys : List Mark}

theorem passAll_append (g : Gate) (xs ys : List Mark) :
    g.passAll (xs ++ ys) = (g.passAll xs).bind fun g => g.passAll ys :=
  List.foldlM_append ..

theorem exists_passAll_of_append (h : g.passAll (xs ++ ys) = some g') :
    ∃ k, g.passAll xs = some k ∧ k.passAll ys = some g' := by
  rw [passAll_append] at h
  exact Option.bind_eq_some_iff.1 h

theorem exists_pass_of_cons (h : g.passAll (x :: xs) = some g') :
    ∃ k, g.pass x = some k ∧ k.passAll xs = some g' :=
  Option.bind_eq_some_iff.1 (by rwa [passAll, List.foldlM_cons] at h)

theorem pass_request_eq_some : g.pass .request = some g' ↔ g = .idle ∧ g' = .pending := by
  cases g <;> simp [pass, eq_comm]

/-- A result leaves no gate pending. -/
theorem gate_ne_pending (result : FetchResult) : result.gate ≠ .pending := by
  cases result with
  | failed e => exact Gate.noConfusion
  | loaded outcome => cases outcome <;> exact Gate.noConfusion

/-- **A gate is pending after a request** and after no other mark. -/
theorem eq_pending_iff_of_pass (h : g.pass x = some g') : g' = .pending ↔ x = .request := by
  cases x with
  | request =>
    rw [(pass_request_eq_some.1 h).2]
    simp
  | settlement result =>
    have hne := gate_ne_pending result
    cases g <;> cases h
    simpa using hne
  | exchange =>
    cases g <;> cases h <;> simp

theorem eq_pending_iff_of_passAll (hg : g ≠ .pending) (h : g.passAll xs = some g') :
    g' = .pending ↔ xs.getLast? = some .request := by
  rcases List.eq_nil_or_concat xs with rfl | ⟨init, x, rfl⟩
  · cases h
    simpa using hg
  · rw [List.concat_eq_append] at h ⊢
    obtain ⟨k, -, hk⟩ := exists_passAll_of_append h
    obtain ⟨k', hpass, hk'⟩ := exists_pass_of_cons hk
    cases hk'
    rw [List.getLast?_concat, eq_pending_iff_of_pass hpass, Option.some_inj]

/-- **From one request to the next** there is a mark of another kind. -/
theorem exists_ne_request (h : g.passAll (.request :: (xs ++ .request :: ys)) = some g') :
    ∃ x ∈ xs, x ≠ .request := by
  obtain ⟨k, hpass, h⟩ := exists_pass_of_cons h
  obtain ⟨-, rfl⟩ := pass_request_eq_some.1 hpass
  cases xs with
  | nil =>
    obtain ⟨k, hpass, -⟩ := exists_pass_of_cons h
    cases (pass_request_eq_some.1 hpass).1
  | cons x xs =>
    obtain ⟨k, hpass, -⟩ := exists_pass_of_cons h
    refine ⟨x, List.mem_cons_self .., ?_⟩
    rintro rfl
    cases (pass_request_eq_some.1 hpass).1

/-- **Once nothing is left to load**, a request needs an exchange before it. -/
theorem exchange_mem
    (h : g.passAll (.settlement (.loaded .exhausted) :: (xs ++ .request :: ys)) = some g') :
    .exchange ∈ xs := by
  obtain ⟨k, hpass, h⟩ := exists_pass_of_cons h
  have hk : k = .exhausted := by
    cases g <;> cases hpass
    rfl
  subst hk
  -- the first mark that an exhausted gate lets pass is an exchange
  cases xs with
  | nil =>
    obtain ⟨k, hpass, -⟩ := exists_pass_of_cons h
    cases hpass
  | cons x xs =>
    obtain ⟨k, hpass, -⟩ := exists_pass_of_cons h
    cases x <;> cases hpass
    exact List.mem_cons_self ..

end Gate

/-! ## Transitions -/

namespace Moment

/-- What an event means for the gate of a direction by itself, if the window is on screen. -/
def told (d : Direction) (m : Moment) : List Mark :=
  if m.before.isMounted then
    match m.event with
    | .settled e result => if e = d ∧ m.before.gate d = .pending then [.settlement result] else []
    | .reset => [.exchange]
    | _ => []
  else []

/-- What bears on the gate of a direction in a transition: the event, and then the requests. -/
def marks (d : Direction) (m : Moment) : List Mark :=
  m.told d ++ List.replicate (m.after.effects.count (.fetch d)) .request

variable {m : Moment} {d : Direction}

theorem told_of_not_mounted (h : m.before.isMounted = false) : m.told d = [] := by
  rw [told, h]
  rfl

/-- By itself an event keeps to the protocol. -/
theorem passAll_told (haccepts : m.before.accepts m.event = true) :
    (m.before.gate d).passAll (m.told d) = some ((m.before.begun m.event).gate d) := by
  obtain ⟨s, event, inp, t⟩ := m
  cases hconcerns : event.concernsUnmounted with
  | true =>
    -- coming on screen and going for good bear on no gate
    cases event with
    | mount => cases d <;> simp [told, Gate.passAll, WindowState.begun]
    | teardown => cases d <;> simp [told, Gate.passAll, WindowState.begun, WindowState.gate]
    | _ => cases hconcerns
  | false =>
    have hmounted : s.isMounted = true := WindowState.isMounted_of_accepts haccepts hconcerns
    rw [told, if_pos hmounted]
    cases event with
    | settled e result =>
      by_cases hpending : s.gate e = .pending
      · by_cases hed : e = d
        · subst hed
          simp only [hpending, and_self, if_true, WindowState.begun_settled hpending,
            WindowState.gate_setGate]
          rfl
        · have hne : d ≠ e := fun heq => hed heq.symm
          simp only [hed, false_and, if_false, WindowState.begun_settled hpending,
            WindowState.gate_setGate_of_ne s hne]
          rfl
      · have hno : ¬ (e = d ∧ s.gate d = .pending) := by
          rintro ⟨rfl, h⟩
          exact hpending h
        simp only [if_neg hno, WindowState.begun_settled_of_ne hpending]
        rfl
    | reset =>
      cases s.gate d <;> cases d <;> rfl
    | _ => cases d <;> rfl

/-- **A transition keeps to the protocol**: it takes the gate that it finds to the gate that it
leaves. -/
theorem passAll_marks (h : step m.before m.event m.inputs = .ok m.after) (d : Direction) :
    (m.before.gate d).passAll (m.marks d) = some (m.after.state.gate d) := by
  rw [marks, Gate.passAll_append]
  cases haccepts : m.before.accepts m.event with
  | false =>
    have hmounted : m.before.isMounted = false := by
      rw [Bool.eq_false_iff]
      intro hmounted
      rw [WindowState.accepts_of_isMounted hmounted] at haccepts
      cases haccepts
    rw [step_of_not_accepts haccepts h, told_of_not_mounted hmounted]
    rfl
  | true =>
    rw [passAll_told haccepts, Option.bind_some]
    rcases step_gate haccepts h d with ⟨hsame, hnone⟩ | ⟨hidle, hpending, hone⟩
    · rw [hnone, hsame]
      rfl
    · rw [hone, hidle, hpending]
      rfl

/-- A transition asks for a page of each direction once at most. -/
theorem count_fetch_le (h : step m.before m.event m.inputs = .ok m.after) (d : Direction) :
    m.after.effects.count (.fetch d) ≤ 1 := by
  cases haccepts : m.before.accepts m.event with
  | false =>
    rw [step_of_not_accepts haccepts h]
    exact Nat.zero_le 1
  | true =>
    rcases step_gate haccepts h d with ⟨-, hnone⟩ | ⟨-, -, hone⟩
    · omega
    · omega

end Moment

/-! ## Runs -/

/-- What bears on the gate of a direction in a run, in its order. -/
def log (d : Direction) (ms : List Moment) : List Mark := ms.flatMap (·.marks d)

variable {s u : WindowState} {ms : List Moment} {d : Direction}
  {events : List (Event × Inputs)} {ts : List Transition}

/-- **A run keeps to the protocol.** -/
theorem Leads.passAll_log (h : Leads s ms u) (d : Direction) :
    (s.gate d).passAll (log d ms) = some (u.gate d) := by
  induction h with
  | nil => rfl
  | cons hbefore hstep _ ih =>
    subst hbefore
    rw [log, List.flatMap_cons, Gate.passAll_append, Moment.passAll_marks hstep, Option.bind_some]
    exact ih

/-- **The protocol of a gate.** In a run of a new window, whatever it is told, each transition asks
for a page of a direction once at most. Between two requests there is a settlement that the window
waited for, or an exchange. After a transition the gate is pending just if the last of the three was
a request. Once nothing is left to load, no page is asked for until the messages are exchanged. -/
theorem steps_gate_protocol (h : steps {} events = .ok ts) (d : Direction) :
    (∀ t ∈ ts, t.effects.count (.fetch d) ≤ 1) ∧
    (∀ xs ys zs, log d (moments {} events ts) = xs ++ .request :: (ys ++ .request :: zs) →
      ∃ y ∈ ys, y ≠ .request) ∧
    (∀ before m after, moments {} events ts = before ++ m :: after →
      (m.after.state.gate d = .pending ↔ (log d (before ++ [m])).getLast? = some .request)) ∧
    (∀ xs ys zs, log d (moments {} events ts) =
        xs ++ .settlement (.loaded .exhausted) :: (ys ++ .request :: zs) →
      .exchange ∈ ys) := by
  obtain ⟨u, hleads⟩ := leads_moments h
  have hlog := hleads.passAll_log d
  refine ⟨fun t ht => ?_, fun xs ys zs hxs => ?_, fun before m after hms => ?_,
    fun xs ys zs hxs => ?_⟩
  · rw [← map_after_moments h] at ht
    obtain ⟨m, hm, rfl⟩ := List.mem_map.1 ht
    exact Moment.count_fetch_le (hleads.step_of_mem hm) d
  · rw [hxs] at hlog
    obtain ⟨g, -, hrest⟩ := Gate.exists_passAll_of_append hlog
    exact Gate.exists_ne_request hrest
  · rw [hms, ← List.singleton_append, ← List.append_assoc] at hleads
    obtain ⟨v, hupto, -⟩ := hleads.split
    obtain rfl := hupto.eq_of_concat
    have hopen : WindowState.gate {} d ≠ .pending := by cases d <;> exact Gate.noConfusion
    exact Gate.eq_pending_iff_of_passAll hopen (hupto.passAll_log d)
  · rw [hxs] at hlog
    obtain ⟨g, -, hrest⟩ := Gate.exists_passAll_of_append hlog
    exact Gate.exchange_mem hrest

/-- A window over one message learns that there is no older one; the reader asks for it again, and
the message is exchanged. -/
def askedInVain : List (Event × Inputs) :=
  [(.mount, overOne), (.settled .older (.loaded .exhausted), overOne), (.retry .older, overOne),
    (.reset, overOne)]

/-- The window is not moved by the reader to ask, and asks after the exchange. -/
theorem steps_gate_protocol_exhausted : ∃ ts, steps {} askedInVain = .ok ts ∧
    log .older (moments {} askedInVain ts) =
      [.request, .settlement (.loaded .exhausted), .exchange, .request] ∧
    ∃ y ∈ [Mark.settlement (.loaded .exhausted), .exchange], y ≠ .request := by
  refine ⟨_, rfl, rfl, ?_⟩
  obtain ⟨-, hbetween, -, -⟩ :=
    steps_gate_protocol (show steps {} askedInVain = .ok _ from rfl) .older
  exact hbetween [] _ [] rfl

end Scrollback
