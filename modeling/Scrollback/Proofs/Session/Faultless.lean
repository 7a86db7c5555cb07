import Scrollback.Proofs.Session.Tracking
import Scrollback.Proofs.Window.Faultless
/-!
# Events that do not fault

As long as the sums that a window may come to are counts for the whole history, a session handles
every event.

## Main definitions

* `Session.Fits` — the policy fits the whole history.

## Main statements

* `Session.Fits.exists_dispatch` — an event and all that follows from it are handled.
-/

namespace Scrollback

namespace Session

variable {s x y : Session} {e : Event} {more : List Event}

/-- What is loaded is a span of the history, and the sums that the window may come to are counts
even if the whole of it is loaded. -/
structure Fits (s : Session) : Prop where
  exists_spans : ∃ a b, s.feed.Spans a b
  policy : s.window.policy.Fits s.feed.remote.size

theorem Fits.loaded (hs : s.Fits) : s.window.policy.Fits s.graph.size := by
  obtain ⟨a, b, hspans⟩ := hs.exists_spans
  have hle := hspans.le_size
  apply hs.policy.mono
  rw [graph, hspans.size_loaded]
  omega

theorem Fits.handle (hx : x.Fits) (hh : x.handle e = .ok (y, more)) : y.Fits := by
  obtain ⟨t, -, hwindow, -⟩ := handle_transition hh
  have hpolicy : y.window.policy = x.window.policy := by rw [hwindow]; rfl
  constructor
  · exact (handle_continues hh).exists_spans hx.exists_spans
  · rw [hpolicy, handle_remote hh]
    exact hx.policy

theorem Fits.exists_handle (hs : s.Fits) (e : Event) : ∃ y more, s.handle e = .ok (y, more) := by
  obtain ⟨t, ht⟩ := exists_step (s.window.inputs s.graph s.unread s.now) hs.loaded
    s.window.state e
  rw [handle_eq, ht]
  exact ⟨_, _, rfl⟩

theorem Fits.exists_handleAll (hs : s.Fits) (fuel : Nat) (queue : List Event) :
    ∃ s', handleAll fuel queue s = .ok s' ∧ s'.Fits := by
  induction fuel generalizing queue s with
  | zero => exact ⟨s, rfl, hs⟩
  | succ fuel ih =>
    cases queue with
    | nil => exact ⟨s, rfl, hs⟩
    | cons e rest =>
      obtain ⟨y, more, hh⟩ := hs.exists_handle e
      rw [handleAll_succ, hh]
      exact ih (hs.handle hh) (rest ++ more)

/-- **An event and all that follows from it are handled** without a fault. -/
theorem Fits.exists_dispatch (hs : s.Fits) (e : Event) : ∃ s', s.dispatch e = .ok s' ∧ s'.Fits :=
  hs.exists_handleAll wake [e]

end Session

end Scrollback
