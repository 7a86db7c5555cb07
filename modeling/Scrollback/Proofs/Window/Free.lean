import Scrollback.History
import Scrollback.Proofs.Window.Pane
import Scrollback.Proofs.Window.Viewport
/-!
# Views that scroll freely

A view that scrolls freely is anchored to the message at its bottom. Whatever is loaded, at either
end or in between, and whatever the window is told of besides scrolls, jumps and exchanges, that
message stays where it is on screen. Only its distance from the newest message is counted anew.

## Main definitions

* `Occurrence.keepsView` — the occurrence is neither a scroll, nor a jump, nor an exchange.
* `Pane.Holds` — the view scrolls freely and is anchored to a given message.

## Main statements

* `Pane.Holds.after` — such an occurrence leaves the view where it is.
* `Pane.free_view_stays` — a run of them does, and counts what is newer.
-/

namespace Scrollback

/-- The occurrence is neither a scroll, nor a jump, nor an exchange of the loaded messages. -/
def Occurrence.keepsView : Occurrence → Bool
  | .event e _ _ => e.keepsView
  | .scrollUp .. | .scrollDown .. | .exchange .. => false
  | _ => true

namespace Pane

variable {p q : Pane} {o : Occurrence} {os : List Occurrence} {e : Event} {unread now : Nat}
  {g : Graph} {k : MessageIndex}

/-- The view scrolls freely, has reached its target, and is anchored to a loaded message. -/
structure Holds (k : MessageIndex) (p : Pane) : Prop where
  scroll : p.window.state.scroll = .freeScroll
  targetReached : p.window.state.targetReached = true
  anchor : p.window.viewport.anchor = some k
  loaded : p.graph.contains k = true

theorem Holds.bottom (h : p.Holds k) : p.window.viewport.bottom? p.graph = some k :=
  Viewport.bottom?_of_anchor h.anchor h.loaded

theorem Holds.offset (h : p.Holds k) :
    p.window.viewport.offset p.graph = p.graph.newer k :=
  Viewport.offset_of_anchor h.anchor h.loaded

theorem Holds.grow (h : p.Holds k) (hsub : p.graph.keys ⊆ g.keys) :
    Holds k { p with graph := g } where
  scroll := h.scroll
  targetReached := h.targetReached
  anchor := h.anchor
  loaded := Graph.contains_iff_mem_keys.2 (hsub (Graph.contains_iff_mem_keys.1 h.loaded))

/-- No event but a scroll, a jump or a reset moves the view. -/
theorem Holds.tell (h : p.Holds k) (he : e.keepsView = true) (hq : p.tell e unread now = .ok q) :
    q.Holds k := by
  obtain ⟨t, ht, rfl⟩ := tell_eq_ok.1 hq
  have hmounted : p.window.state.scroll ≠ .initializing := by
    rw [h.scroll]
    decide
  obtain ⟨hscroll, hreached, heffects⟩ := step_stays he hmounted h.targetReached ht
  have hviewport : (p.moved t).window.viewport = p.window.viewport := by
    apply Viewport.foldl_apply _ heffects
    intro hlocked
    rw [h.scroll] at hlocked
    cases hlocked
  constructor
  · exact hscroll.trans h.scroll
  · exact hreached
  · rw [hviewport]
    exact h.anchor
  · exact h.loaded

/-- **No occurrence but a scroll, a jump or an exchange moves the view.** -/
theorem Holds.after (h : p.Holds k) (ho : o.keepsView = true) (hq : p.after o = .ok q) :
    q.Holds k := by
  cases o with
  | event e unread now => exact h.tell ho hq
  | scrollUp n unread now => cases ho
  | scrollDown n unread now => cases ho
  | exchange g unread now => cases ho
  | resize rows =>
    cases hq
    exact ⟨h.scroll, h.targetReached, h.anchor, h.loaded⟩
  | look focused =>
    cases hq
    exact ⟨h.scroll, h.targetReached, h.anchor, h.loaded⟩
  | insert i n =>
    cases hq
    exact h.grow (p.graph.keys_subset_insert i n)
  | extend page =>
    cases hq
    exact h.grow (p.graph.keys_subset_extend page)
  | acknowledge i =>
    cases hq
    exact h.grow (p.graph.keys_acknowledge i ▸ List.Subset.refl _)
  | delete i =>
    cases hq
    exact h.grow (p.graph.keys_delete i ▸ List.Subset.refl _)

/-- **A view that scrolls freely never moves by itself.** It has reached its target and is anchored
to a loaded message, and then anything may be loaded and changed, and the window may be told of
anything but scrolls, jumps and exchanges. The run does not fault while the policy fits what may be
loaded. After it the view still scrolls freely, the same message is at its bottom, and its offset is
the number of loaded messages that are newer. -/
theorem free_view_stays (hfree : p.window.state.scroll = .freeScroll)
    (hreached : p.window.state.targetReached = true) (hanchor : p.window.viewport.anchor = some k)
    (hloaded : p.graph.contains k = true) (hos : ∀ o ∈ os, o.keepsView = true) :
    (p.window.policy.Fits (p.graph.size + Occurrence.loads os) → ∃ q, p.run os = .ok q) ∧
    ∀ q, p.run os = .ok q →
      q.window.state.scroll = .freeScroll ∧
      q.window.viewport.bottom? q.graph = p.window.viewport.bottom? p.graph ∧
      q.window.viewport.bottom? q.graph = some k ∧
      q.window.viewport.offset q.graph = q.graph.newer k := by
  refine ⟨exists_run, ?_⟩
  intro q hq
  have hp : p.Holds k := ⟨hfree, hreached, hanchor, hloaded⟩
  have hafter : q.Holds k := by
    refine run_induction (P := Holds k) hp ?_ hq
    intro x y o ho hx hy
    exact hx.after (hos o ho) hy
  exact ⟨hafter.scroll, hafter.bottom.trans hp.bottom.symm, hafter.bottom, hafter.offset⟩

/-- A reader who has scrolled up by two goes on seeing the same message when one joins below it. -/
theorem free_view_stays_growing : ∃ (p q : Pane) (k : MessageIndex),
    p.window.state.scroll = .freeScroll ∧ p.window.viewport.offset p.graph = 2 ∧
      p.run [.insert ⟨9, by decide⟩ .deleted, .event .update 1 20,
        .event (.settled .older (.loaded .exhausted)) 1 30, .event (.focus false) 1 40] = .ok q ∧
      q.window.state.scroll = .freeScroll ∧ q.window.viewport.bottom? q.graph = some k ∧
        q.window.viewport.offset q.graph = 3 := by
  have hrun : ((History.synthetic 8 "nec" ⟨⟨2024, 1, 1⟩, 0, 0⟩).toOption.any fun g =>
      (run ⟨{ viewport.height := 3 }, g⟩
        [.event .mount 0 0, .scrollUp 2 0 10]).toOption.any fun p =>
          p.window.viewport.anchor.any fun k =>
            decide (p.window.state.scroll = .freeScroll ∧ p.window.state.targetReached = true ∧
              p.graph.contains k = true ∧ p.window.viewport.offset p.graph = 2) &&
            (p.run [.insert ⟨9, by decide⟩ .deleted, .event .update 1 20,
              .event (.settled .older (.loaded .exhausted)) 1 30,
              .event (.focus false) 1 40]).toOption.any fun q =>
                decide (q.graph.newer k = 3)) = true := by decide +kernel
  obtain ⟨g, -, hrun⟩ := (Option.any_eq_true ..).1 hrun
  obtain ⟨p, -, hrun⟩ := (Option.any_eq_true ..).1 hrun
  obtain ⟨k, hanchor, hrun⟩ := (Option.any_eq_true ..).1 hrun
  obtain ⟨hbefore, hrun⟩ := Bool.and_eq_true_iff.1 hrun
  obtain ⟨hfree, hreached, hloaded, hoffset⟩ := of_decide_eq_true hbefore
  obtain ⟨q, hq, hnewer⟩ := (Option.any_eq_true ..).1 hrun
  have hq := toOption_eq_some.1 hq
  obtain ⟨hscroll, -, hbottom, hcount⟩ :=
    (free_view_stays hfree hreached hanchor hloaded (by decide)).2 q hq
  have hthree := hcount.trans (of_decide_eq_true hnewer)
  exact ⟨p, q, k, hfree, hoffset, hq, hscroll, hbottom, hthree⟩

end Pane

end Scrollback
