import Scrollback.Proofs.Graph.Position
import Scrollback.Proofs.Window.Faultless
import Scrollback.Window
/-!
# A window over what is loaded

A window does not own the messages that it shows. Between two events its host may load, change and
exchange them, the reader may scroll, and the screen may get another height. A pane is a window
together with what is loaded, and a run is any sequence of such occurrences.

## Main definitions

* `Pane` — a window and the messages that it is over.
* `Occurrence` — what may happen to either.
* `Pane.after`, `Pane.run` — one occurrence, and one after the other.

## Main statements

* `Pane.run_induction` — what every occurrence keeps holds after a run.
* `Pane.exists_run` — a run does not fault while the policy fits what may be loaded.
-/

namespace Scrollback

/-- A window and the messages that it is over. -/
structure Pane where
  /-- The window. -/
  window : Window
  /-- The loaded messages. -/
  graph : Graph

/-- What may happen to a window and the messages that it is over. -/
inductive Occurrence where
  /-- The window is told of an event, when so many messages are unread. -/
  | event (event : Event) (unread now : Nat)
  /-- The reader scrolls toward older messages, and the window is told at once. -/
  | scrollUp (lines unread now : Nat)
  /-- The reader scrolls toward newer messages, and the window is told at once. -/
  | scrollDown (lines unread now : Nat)
  /-- The screen gets another height. -/
  | resize (rows : Nat)
  /-- The reader looks at the window or away from it. -/
  | look (focused : Bool)
  /-- A message is loaded, in place of the one at its index. -/
  | insert (index : MessageIndex) (node : Node)
  /-- A page is loaded. -/
  | extend (page : List Entry)
  /-- A message is acknowledged. -/
  | acknowledge (index : MessageIndex)
  /-- A message is deleted. -/
  | delete (index : MessageIndex)
  /-- The loaded messages are exchanged for others, and the window is told at once. -/
  | exchange (graph : Graph) (unread now : Nat)

namespace Occurrence

/-- The window is told of a scroll, wherever its viewport stands. -/
def isRawScroll : Occurrence → Bool
  | .event (.scroll _) _ _ => true
  | _ => false

/-- How many messages may be loaded in addition. -/
def load : Occurrence → Nat
  | .insert _ _ => 1
  | .extend page => page.length
  | .exchange g _ _ => g.size
  | _ => 0

/-- How many messages a run may load in addition. -/
def loads : List Occurrence → Nat
  | [] => 0
  | o :: os => o.load + loads os

end Occurrence

namespace Pane

variable {p q : Pane} {o : Occurrence} {os : List Occurrence} {e : Event} {unread now : Nat}

/-- The pane whose window has gone through a transition. -/
def moved (p : Pane) (t : Transition) : Pane where
  window :=
    { p.window with
      state := t.state
      viewport := t.effects.foldl (Viewport.apply p.graph) p.window.viewport }
  graph := p.graph

/-- Tells the window of an event; the host's commands are left to it. -/
def tell (p : Pane) (e : Event) (unread now : Nat) : Checked Pane :=
  (p.window.handle e p.graph unread now).map fun r => { p with window := r.1 }

/-- The pane whose viewport stands elsewhere. -/
def turn (p : Pane) (v : Viewport) : Pane where
  window := { p.window with viewport := v }
  graph := p.graph

/-- Moves the viewport and tells the window where it stands then. -/
def scroll (p : Pane) (v : Viewport) (unread now : Nat) : Checked Pane :=
  ((p.turn v).window.onScroll p.graph unread now).map fun r => { p with window := r.1 }

/-- One occurrence. -/
def after (p : Pane) : Occurrence → Checked Pane
  | .event e unread now => p.tell e unread now
  | .scrollUp n unread now => p.scroll (p.window.viewport.scrollUp p.graph n) unread now
  | .scrollDown n unread now => p.scroll (p.window.viewport.scrollDown p.graph n) unread now
  | .resize rows => .ok (p.turn { p.window.viewport with height := rows })
  | .look focused => .ok { p with window := { p.window with focused } }
  | .insert i n => .ok { p with graph := p.graph.insert i n }
  | .extend page => .ok { p with graph := (p.graph.extend page).1 }
  | .acknowledge i => .ok { p with graph := p.graph.acknowledge i }
  | .delete i => .ok { p with graph := p.graph.delete i }
  | .exchange g unread now => tell { p with graph := g } .reset unread now

/-- One occurrence after the other. -/
def run (p : Pane) : List Occurrence → Checked Pane
  | [] => .ok p
  | o :: os => do
    let q ← p.after o
    q.run os

/-! ## Transitions -/

theorem tell_eq (p : Pane) (e : Event) (unread now : Nat) : p.tell e unread now =
    (step p.window.state e (p.window.inputs p.graph unread now)).map p.moved := by
  rw [tell, Window.handle]
  cases step p.window.state e (p.window.inputs p.graph unread now) <;> rfl

theorem tell_eq_ok : p.tell e unread now = .ok q ↔
    ∃ t, step p.window.state e (p.window.inputs p.graph unread now) = .ok t ∧ p.moved t = q := by
  rw [tell_eq, Checked.map_eq_ok]

theorem scroll_eq (p : Pane) (v : Viewport) (unread now : Nat) :
    p.scroll v unread now = (p.turn v).tell (.scroll (v.offset p.graph)) unread now := rfl

/-! ## Runs -/

/-- What every occurrence of a run keeps holds after it. -/
theorem run_induction {P : Pane → Prop} (hp : P p)
    (hstep : ∀ {p q o}, o ∈ os → P p → p.after o = .ok q → P q) (h : p.run os = .ok q) : P q := by
  induction os generalizing p with
  | nil =>
    cases h
    exact hp
  | cons o os ih =>
    obtain ⟨r, hr, h⟩ := Checked.bind_eq_ok.1 h
    have hnext : P r := hstep (List.mem_cons_self ..) hp hr
    apply ih hnext _ h
    intro x y o' ho'
    exact hstep (List.mem_cons_of_mem o ho')

theorem exists_tell (h : p.window.policy.Fits p.graph.size) (e : Event) (unread now : Nat) :
    ∃ q, p.tell e unread now = .ok q ∧ q.window.policy = p.window.policy ∧ q.graph = p.graph := by
  obtain ⟨t, ht⟩ := exists_step (p.window.inputs p.graph unread now) h p.window.state e
  exact ⟨p.moved t, tell_eq_ok.2 ⟨t, ht, rfl⟩, rfl, rfl⟩

/-- An occurrence does not fault, and loads no more than it may. -/
theorem exists_after (h : p.window.policy.Fits (p.graph.size + o.load)) :
    ∃ q, p.after o = .ok q ∧ q.window.policy = p.window.policy ∧
      q.graph.size ≤ p.graph.size + o.load := by
  have hloaded := h.mono (Nat.le_add_right _ _)
  cases o with
  | event e unread now =>
    obtain ⟨q, hq, hpolicy, hgraph⟩ := exists_tell hloaded e unread now
    exact ⟨q, hq, hpolicy, by rw [hgraph]; exact Nat.le_refl _⟩
  | scrollUp n unread now =>
    obtain ⟨q, hq, hpolicy, hgraph⟩ :=
      exists_tell (p := p.turn (p.window.viewport.scrollUp p.graph n)) hloaded _ unread now
    exact ⟨q, hq, hpolicy, by rw [hgraph]; exact Nat.le_refl _⟩
  | scrollDown n unread now =>
    obtain ⟨q, hq, hpolicy, hgraph⟩ :=
      exists_tell (p := p.turn (p.window.viewport.scrollDown p.graph n)) hloaded _ unread now
    exact ⟨q, hq, hpolicy, by rw [hgraph]; exact Nat.le_refl _⟩
  | exchange g unread now =>
    obtain ⟨q, hq, hpolicy, hgraph⟩ := exists_tell (p := { p with graph := g })
      (h.mono (Nat.le_add_left _ _)) .reset unread now
    refine ⟨q, hq, hpolicy, ?_⟩
    rw [hgraph]
    exact Nat.le_add_left _ _
  | resize rows => exact ⟨_, rfl, rfl, Nat.le_refl _⟩
  | look focused => exact ⟨_, rfl, rfl, Nat.le_refl _⟩
  | insert i n => exact ⟨_, rfl, rfl, p.graph.size_insert_le i n⟩
  | extend page => exact ⟨_, rfl, rfl, p.graph.size_extend_le page⟩
  | acknowledge i => exact ⟨_, rfl, rfl, (p.graph.size_modify i _).le⟩
  | delete i => exact ⟨_, rfl, rfl, (p.graph.size_modify i _).le⟩

/-- **A run does not fault** while the policy fits all that may be loaded. -/
theorem exists_run (h : p.window.policy.Fits (p.graph.size + Occurrence.loads os)) :
    ∃ q, p.run os = .ok q := by
  induction os generalizing p with
  | nil => exact ⟨p, rfl⟩
  | cons o os ih =>
    rw [Occurrence.loads] at h
    obtain ⟨r, hr, hpolicy, hsize⟩ := exists_after (o := o) (h.mono (by omega))
    obtain ⟨q, hq⟩ : ∃ q, r.run os = .ok q := by
      apply ih
      rw [hpolicy]
      exact h.mono (by omega)
    exact ⟨q, Checked.bind_eq_ok.2 ⟨r, hr, hq⟩⟩

end Pane

end Scrollback
