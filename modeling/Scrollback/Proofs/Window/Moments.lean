import Scrollback.Proofs.Window.Gate
/-!
# The moments of a run

A run of transitions is told moment by moment: the state that an event comes upon, the event with
its inputs, and the transition that it makes. What is said of two moments of a run, one before the
other, is proved of the moments that lie between them.

## Main definitions

* `Moment`, `moments` — one transition of a run with what led to it, and all of them.
* `Leads` — the moments follow each other, from one state to another.

## Main statements

* `leads_moments` — the moments of a run follow each other.
* `Leads.split`, `Leads.step_of_mem` — parts of a run are runs, and each moment is a transition.
-/

namespace Scrollback

/-- One transition of a run, with what led to it. -/
structure Moment where
  /-- The state that the event comes upon. -/
  before : WindowState
  /-- What the window is told. -/
  event : Event
  /-- What the transition may read besides. -/
  inputs : Inputs
  /-- What comes of it. -/
  after : Transition

/-- The moments of a run. -/
def moments (s : WindowState) : List (Event × Inputs) → List Transition → List Moment
  | (event, inp) :: rest, t :: ts => ⟨s, event, inp, t⟩ :: moments t.state rest ts
  | _, _ => []

/-- Each moment comes upon the state that the one before it has left. -/
inductive Leads : WindowState → List Moment → WindowState → Prop where
  | nil (s : WindowState) : Leads s [] s
  | cons {s u : WindowState} {m : Moment} {ms : List Moment} :
      m.before = s → step m.before m.event m.inputs = .ok m.after → Leads m.after.state ms u →
        Leads s (m :: ms) u

variable {s u : WindowState} {m : Moment} {ms xs ys : List Moment}
  {events : List (Event × Inputs)} {ts : List Transition}

/-- **The moments of a run follow each other.** -/
theorem leads_moments (h : steps s events = .ok ts) : ∃ u, Leads s (moments s events ts) u := by
  induction events generalizing s ts with
  | nil => exact ⟨s, .nil s⟩
  | cons x rest ih =>
    obtain ⟨event, inp⟩ := x
    obtain ⟨t, ht, h⟩ := Checked.bind_eq_ok.1 h
    obtain ⟨after, hafter, heq⟩ := Checked.bind_eq_ok.1 h
    cases heq
    obtain ⟨u, hu⟩ := ih hafter
    exact ⟨u, .cons rfl ht hu⟩

/-- The moments of a run are all of its transitions. -/
theorem map_after_moments (h : steps s events = .ok ts) :
    (moments s events ts).map (·.after) = ts := by
  induction events generalizing s ts with
  | nil =>
    cases h
    rfl
  | cons x rest ih =>
    obtain ⟨event, inp⟩ := x
    obtain ⟨t, -, h⟩ := Checked.bind_eq_ok.1 h
    obtain ⟨after, hafter, heq⟩ := Checked.bind_eq_ok.1 h
    cases heq
    rw [moments, List.map_cons, ih hafter]

/-- The moments of a run are about the events that the window is told. -/
theorem mem_of_mem_moments (hm : m ∈ moments s events ts) : (m.event, m.inputs) ∈ events := by
  induction events generalizing s ts with
  | nil => cases hm
  | cons x rest ih =>
    obtain ⟨event, inp⟩ := x
    cases ts with
    | nil => cases hm
    | cons t ts =>
      rcases List.mem_cons.1 hm with rfl | hm
      · exact List.mem_cons_self ..
      · exact List.mem_cons_of_mem _ (ih hm)

/-- The moments of a run are about all that the window is told, in order. -/
theorem map_event_moments (h : steps s events = .ok ts) :
    (moments s events ts).map (fun m => (m.event, m.inputs)) = events := by
  induction events generalizing s ts with
  | nil => rfl
  | cons x rest ih =>
    obtain ⟨event, inp⟩ := x
    obtain ⟨t, -, h⟩ := Checked.bind_eq_ok.1 h
    obtain ⟨after, hafter, heq⟩ := Checked.bind_eq_ok.1 h
    cases heq
    rw [moments, List.map_cons, ih hafter]

/-- Parts of a run are runs. -/
theorem Leads.split (h : Leads s (xs ++ ys) u) : ∃ v, Leads s xs v ∧ Leads v ys u := by
  induction xs generalizing s with
  | nil => exact ⟨s, .nil s, h⟩
  | cons m xs ih =>
    cases h with
    | cons hbefore hstep hrest =>
      obtain ⟨v, hxs, hys⟩ := ih hrest
      exact ⟨v, .cons hbefore hstep hxs, hys⟩

/-- The last moment of a run comes upon what the run before it has left, and is a transition. -/
theorem Leads.of_concat (h : Leads s (xs ++ [m]) u) :
    Leads s xs m.before ∧ step m.before m.event m.inputs = .ok m.after ∧ u = m.after.state := by
  obtain ⟨v, hupto, hlast⟩ := h.split
  cases hlast with
  | cons hbefore hstep hnil =>
    cases hnil
    exact ⟨hbefore ▸ hupto, hstep, rfl⟩

/-- A run ends in the state that its last moment leaves. -/
theorem Leads.eq_of_concat (h : Leads s (xs ++ [m]) u) : u = m.after.state :=
  h.of_concat.2.2

/-- Each moment of a run is a transition. -/
theorem Leads.step_of_mem (h : Leads s ms u) (hm : m ∈ ms) :
    step m.before m.event m.inputs = .ok m.after := by
  induction h with
  | nil => cases hm
  | cons _ hstep _ ih =>
    rcases List.mem_cons.1 hm with rfl | hm
    · exact hstep
    · exact ih hm

end Scrollback
