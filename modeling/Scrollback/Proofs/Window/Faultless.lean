import Scrollback.Proofs.Window.Mounted
import Scrollback.Window.Transition
/-!
# Transitions that do not fault

A window computes with sizes and distances only when it looks at the loaded ends, and then it adds
no more than the overscan or the threshold to the number of loaded messages. As long as these sums
are counts, a transition does not fault.

## Main definitions

* `Policy.Fits` — the sums that a window may come to are counts.

## Main statements

* `exists_step` — a transition does not fault where the policy fits what is loaded.
-/

namespace Scrollback

/-- The sums that a window may come to on so many loaded messages are counts. -/
def Policy.Fits (c : Policy) (size : Nat) : Prop :=
  size + max c.overscan c.fetchThreshold < Count.bound

instance (c : Policy) (size : Nat) : Decidable (c.Fits size) := inferInstanceAs (Decidable (_ < _))

theorem Policy.Fits.mono {c : Policy} {m n : Nat} (h : c.Fits n) (hle : m ≤ n) : c.Fits m :=
  Nat.lt_of_le_of_lt (Nat.add_le_add_right hle _) h

theorem Mounted.exists_nearNewest {mounted : Mounted} {threshold : Nat}
    (h : mounted.stop + threshold < Count.bound) (size : Nat) :
    ∃ near, mounted.nearNewest size threshold = .ok near := by
  rw [nearNewest]
  split
  · exact ⟨false, rfl⟩
  · rw [Count.add_eq_ok.2 ⟨h, rfl⟩]
    exact ⟨_, rfl⟩

namespace Progress

variable {inp : Inputs}

theorem exists_checkEdges (h : inp.policy.Fits inp.graph.size) (p : Progress) :
    ∃ q, p.checkEdges inp = .ok q := by
  rw [Policy.Fits] at h
  rw [checkEdges]
  split
  · exact ⟨_, rfl⟩
  · have hover : inp.graph.size + inp.policy.overscan < Count.bound := by omega
    obtain ⟨mounted, hmounted⟩ := Mounted.exists_around hover p.offset inp.visible
    obtain ⟨-, hstop⟩ := Mounted.le_of_around hmounted
    have hreach : mounted.stop + inp.policy.fetchThreshold < Count.bound := by omega
    obtain ⟨near, hnear⟩ := Mounted.exists_nearNewest hreach inp.graph.size
    simp only [hmounted, hnear, bind, Except.bind]
    exact ⟨_, rfl⟩

/-- Every event either ends with a look at the loaded ends or computes with no sizes. -/
theorem exists_handle (h : inp.policy.Fits inp.graph.size) (p : Progress) (event : Event) :
    ∃ q, p.handle inp event = .ok q := by
  cases event with
  | mount =>
    rw [handle, mount]
    split
    · exact ⟨_, rfl⟩
    · exact exists_checkEdges h _
  | update =>
    rw [handle, refresh]
    dsimp only
    split
    · exact ⟨_, rfl⟩
    · exact exists_checkEdges h _
  | settled d result =>
    rw [handle, settled.eq_def]
    split
    · exact ⟨_, rfl⟩
    · cases result with
      | failed e => exact ⟨_, rfl⟩
      | loaded outcome => exact exists_checkEdges h _
  | jumpToUnread =>
    rw [handle, jumpToUnread]
    split
    · exact exists_checkEdges h _
    · exact ⟨_, rfl⟩
  | scroll offset => exact exists_checkEdges h _
  | jumpToLatest => exact exists_checkEdges h _
  | reset => exact exists_checkEdges h _
  | _ => exact ⟨_, rfl⟩

end Progress

/-- A transition does not fault where the sums that it may come to are counts. -/
theorem exists_step (inp : Inputs) (h : inp.policy.Fits inp.graph.size) (s : WindowState)
    (event : Event) : ∃ t, step s event inp = .ok t := by
  rw [step]
  split
  · obtain ⟨q, hq⟩ := Progress.exists_handle h ⟨s, [], inp.offset⟩ event
    rw [hq]
    exact ⟨_, rfl⟩
  · exact ⟨_, rfl⟩

end Scrollback
