import Scrollback.Proofs.Session.Tracking
import Scrollback.Proofs.Window.Viewport
/-!
# Whether the target stays on screen

A session that is opened at a message shows it as the oldest one on screen, if enough newer messages
are loaded for it to stand there. The view is anchored to the message at the bottom of the screen
then, and whatever is loaded at either end moves both messages alike. If there are too few newer
messages, the view is kept at the newest one instead, and the target goes off screen once a
screenful of newer messages has been loaded.

## Main definitions

* `Move.staysAt` — the move is no scroll and no jump, and leaves the height of the list.
* `Session.shows` — a message is on screen.
* `Session.Rests` — the view has reached its target, and where it stands.

## Main statements

* `Session.Rests.move` — such a move leaves the view where it is.
* `Session.target_shown_iff` — when the target is on screen.
-/

namespace Scrollback

/-- The reader neither scrolls nor jumps. -/
def Action.keepsView : Action → Bool
  | .scrollUp _ | .scrollDown _ | .jumpToLatest | .jumpToUnread => false
  | _ => true

/-- The reader neither scrolls nor jumps, and the list keeps so many rows. -/
def Move.staysAt (rows : Nat) : Move → Bool
  | .mount r | .resize r => decide (r = rows)
  | .input i => i.action.keepsView
  | _ => true

namespace Session

variable {s s' s₀ s₁ a x y : Session} {m : Move} {ms : List Move} {e : Event}
  {es more : List Event} {h h₀ h₁ : List (Session × Move)} {v : Viewport} {mode : ScrollMode}
  {rows p : Nat} {t : MessageIndex}

/-- A message is on screen: it stands among as many positions up to the bottom of the screen as
there are rows. -/
def shows (s : Session) (i : MessageIndex) : Bool :=
  match s.graph.positionOf? i, s.window.viewport.bottomPosition? s.graph with
  | some p, some bottom => decide (bottom - (s.window.viewport.visible - 1) ≤ p ∧ p ≤ bottom)
  | _, _ => false

theorem shows_iff (ht : s.graph.keys[p]? = some t) {bottom : Nat}
    (hbottom : s.window.viewport.bottomPosition? s.graph = some bottom) :
    s.shows t = true ↔ bottom - (s.window.viewport.visible - 1) ≤ p ∧ p ≤ bottom := by
  rw [shows, Graph.positionOf?_eq_some_iff.2 ht, hbottom]
  exact decide_eq_true_iff

/-! ## A view that rests -/

/-- The view has reached its target and stands where it does: kept at the newest message, if it is
locked to it. -/
structure Rests (v : Viewport) (mode : ScrollMode) (s : Session) : Prop where
  mounted : mode ≠ .initializing
  anchor : mode = .lockedToBottom → v.anchor = none
  viewport : s.window.viewport = v
  scroll : s.window.state.scroll = mode
  reached : s.window.state.targetReached = true

theorem Rests.handle (hx : Rests v mode x) (he : e.keepsView = true)
    (hh : x.handle e = .ok (y, more)) : Rests v mode y := by
  have hmounted : x.window.state.scroll ≠ .initializing := by
    rw [hx.scroll]
    exact hx.mounted
  obtain ⟨tr, htr, hwindow, -⟩ := handle_transition hh
  obtain ⟨hscroll, hreached, heffects⟩ := step_stays he hmounted hx.reached htr
  constructor
  · exact hx.mounted
  · exact hx.anchor
  · have hviewport : (x.moved tr).window.viewport =
        tr.effects.foldl (Viewport.apply x.graph) x.window.viewport := rfl
    rw [hx.scroll] at heffects
    rw [hwindow, hviewport, hx.viewport]
    exact Viewport.foldl_apply hx.anchor heffects
  · rw [hwindow]
    exact hscroll.trans hx.scroll
  · rw [hwindow]
    exact hreached

/-- Only updates follow from an event that keeps the view. -/
theorem keepsView_of_handle (he : e.keepsView = true) (hh : x.handle e = .ok (y, more)) :
    ∀ e' ∈ more, e'.keepsView = true := by
  have hne : e ≠ .jumpToLatest := by
    rintro rfl
    cases he
  obtain ⟨-, n, rfl, -⟩ := handle_asks (replaces_of_ne hne) hh
  intro e' he'
  rw [List.eq_of_mem_replicate he']
  rfl

theorem Rests.tell (ha : Rests v mode a) (hes : ∀ e ∈ es, e.keepsView = true)
    (hs : a.tell es = .ok s) : Rests v mode s := by
  have hlast : (∀ e ∈ ([] : List Event), e.keepsView = true) ∧ Rests v mode s := by
    refine tell_induction (P := fun queue x => (∀ e ∈ queue, e.keepsView = true) ∧
      Rests v mode x) ?_ ?_ ⟨hes, ha⟩ hs
    · rintro queue queue' x hperm ⟨hqueue, hx⟩
      exact ⟨fun e he => hqueue e (hperm.mem_iff.2 he), hx⟩
    · rintro e queue x y more hh ⟨hqueue, hx⟩
      obtain ⟨he, hqueue⟩ := List.forall_mem_cons.1 hqueue
      refine ⟨?_, hx.handle he hh⟩
      exact List.forall_mem_append.2 ⟨keepsView_of_handle he hh, hqueue⟩
  exact hlast.2

/-- Whatever the reader does besides scrolling and jumping leaves the view. -/
theorem toldBy_keepsView {z : Action} (hz : z.keepsView = true)
    (ht : s.toldBy z = some (a, es)) :
    a.window.viewport = s.window.viewport ∧ ∀ e ∈ es, e.keepsView = true := by
  cases z with
  | scrollUp step => cases hz
  | scrollDown step => cases hz
  | jumpToLatest => cases hz
  | jumpToUnread => cases hz
  | retry =>
    rw [toldBy] at ht
    split at ht <;> cases ht <;> exact ⟨rfl, by simp [Event.keepsView]⟩
  | send =>
    obtain ⟨_, -, heq⟩ := Option.map_eq_some_iff.1 ht
    cases heq
    exact ⟨rfl, by simp [Event.keepsView]⟩
  | _ =>
    cases ht
    exact ⟨rfl, by simp [Event.keepsView]⟩

/-- By itself a move that is no scroll and no jump leaves the view, and so does what the window is
told of it. -/
theorem told_keepsView (hm : m.staysAt s.window.viewport.height = true)
    (ht : s.told m = some (a, es)) :
    a.window.viewport = s.window.viewport ∧ ∀ e ∈ es, e.keepsView = true := by
  cases m with
  | mount r =>
    cases ht
    rw [of_decide_eq_true hm]
    exact ⟨rfl, by simp [Event.keepsView]⟩
  | resize r =>
    cases ht
    rw [of_decide_eq_true hm]
    exact ⟨rfl, by simp⟩
  | input i => exact toldBy_keepsView hm ht
  | perform n =>
    obtain ⟨task, -, heq⟩ := Option.map_eq_some_iff.1 ht
    cases heq
    rw [perform_window]
    exact ⟨rfl, by simp⟩
  | hearResult =>
    rw [told] at ht
    split at ht
    · cases ht
      rw [forgiven]
      split <;> exact ⟨rfl, by simp [Event.keepsView]⟩
    · cases ht
  | hearNews =>
    rw [told] at ht
    split at ht
    · obtain ⟨_, -, heq⟩ := Option.map_eq_some_iff.1 ht
      cases heq
      exact ⟨rfl, by simp [Event.keepsView]⟩
    · cases ht
      exact ⟨rfl, by simp⟩
    · cases ht
  | _ =>
    cases ht
    exact ⟨rfl, by simp [Event.keepsView]⟩

/-- **A move that is no scroll and no jump leaves the view where it is**, and takes nothing from the
loaded messages. -/
theorem Rests.move (hs : Rests v mode s) (hm : m.staysAt v.height = true)
    (hmove : s.move m = some s') : Rests v mode s' ∧ s.feed.Grows s'.feed := by
  obtain ⟨a, es, b, htold, htell, rfl⟩ := exists_told hmove
  obtain ⟨tasks, started, heq⟩ := b.exists_settleMove_eq m
  have hheight : m.staysAt s.window.viewport.height = true := by rwa [hs.viewport]
  obtain ⟨hviewport, hes⟩ := told_keepsView hheight htold
  have ha : Rests v mode a := by
    have hstate := told_state htold
    exact ⟨hs.mounted, hs.anchor, hviewport.trans hs.viewport, by rw [hstate, hs.scroll],
      by rw [hstate, hs.reached]⟩
  have hjump : .jumpToLatest ∉ es := fun hmem => Bool.noConfusion (hes _ hmem)
  have hb := ha.tell hes htell
  rw [heq]
  refine ⟨⟨hb.mounted, hb.anchor, hb.viewport, hb.scroll, hb.reached⟩, ?_⟩
  have hfeed := tell_feed hjump htell
  exact hfeed ▸ (told_change htold).grows

theorem Rests.replay (hs : Rests v mode s) (hms : ∀ m ∈ ms, m.staysAt v.height = true)
    (hs' : replay h s ms = some (h₁, s')) : Rests v mode s' ∧ s.feed.Grows s'.feed := by
  induction ms generalizing h s with
  | nil =>
    cases hs'
    exact ⟨hs, .refl _⟩
  | cons m ms ih =>
    obtain ⟨s₁, hmove, hs'⟩ := Option.bind_eq_some_iff.1 hs'
    obtain ⟨hm, hms⟩ := List.forall_mem_cons.1 hms
    obtain ⟨hs₁, hfirst⟩ := hs.move hm hmove
    obtain ⟨hlast, hrest⟩ := ih hs₁ hms hs'
    exact ⟨hlast, hfirst.trans hrest⟩

/-! ## Mounting -/

/-- The view that mounting goes to: the target stands at its top, or the newest message at its
bottom. -/
def viewAt (s : Session) (rows p : Nat) : Viewport where
  anchor := Viewport.anchorAt s.graph (p + (max rows 1 - 1))
  height := rows

/-- The mode that mounting goes to. -/
def modeAt (s : Session) (rows p : Nat) : ScrollMode :=
  Progress.modeAt (s.graph.size - 1 - p - (max rows 1 - 1))

theorem modeAt_eq_freeScroll_iff (ht : s.graph.keys[p]? = some t) :
    s.modeAt rows p = .freeScroll ↔ max rows 1 ≤ s.graph.newer t := by
  have hrows := Nat.le_max_right rows 1
  rw [modeAt, Progress.modeAt, Graph.newer_eq ht]
  split
  · simp
    omega
  · simp
    omega

/-- A view that scrolls freely is anchored to the message that a screenful shows last. -/
theorem exists_anchor_viewAt (ht : s.graph.keys[p]? = some t)
    (hfree : s.modeAt rows p = .freeScroll) :
    ∃ k, (s.viewAt rows p).anchor = some k ∧ s.graph.keys[p + (max rows 1 - 1)]? = some k := by
  have hnewer := (modeAt_eq_freeScroll_iff ht).1 hfree
  rw [Graph.newer_eq ht, Graph.size_eq_length_keys] at hnewer
  have hrows := Nat.le_max_right rows 1
  have hlt : p + (max rows 1 - 1) < s.graph.keys.length := by omega
  have hnot : ¬ s.graph.size - 1 ≤ p + (max rows 1 - 1) := by
    rw [Graph.size_eq_length_keys]
    omega
  refine ⟨s.graph.keys[p + (max rows 1 - 1)], ?_, List.getElem?_eq_getElem hlt⟩
  rw [viewAt, Viewport.anchorAt, if_neg hnot, Graph.keyAt?_eq, List.getElem?_eq_getElem hlt]

theorem anchor_viewAt_of_locked (ht : s.graph.keys[p]? = some t)
    (hlocked : s.modeAt rows p = .lockedToBottom) : (s.viewAt rows p).anchor = none := by
  have hnewer : ¬ max rows 1 ≤ s.graph.newer t := by
    rw [← modeAt_eq_freeScroll_iff ht, hlocked]
    exact ScrollMode.noConfusion
  rw [Graph.newer_eq ht] at hnewer
  rw [viewAt, Viewport.anchorAt, if_pos (by omega)]

theorem modeAt_ne_initializing (s : Session) (rows p : Nat) :
    s.modeAt rows p ≠ .initializing := Progress.modeAt_ne_initializing _

/-- A window that is mounted goes to its target. -/
theorem handle_mount_rests (hscroll : x.window.state.scroll = .initializing)
    (htorn : x.window.state.tornDown = false) (htarget : x.window.target = some t)
    (ht : x.graph.keys[p]? = some t) (hh : x.handle .mount = .ok (y, more)) :
    Rests (x.viewAt x.window.viewport.height p) (x.modeAt x.window.viewport.height p) y := by
  have haccepts : x.window.state.accepts .mount = true :=
    WindowState.accepts_iff.2 ⟨htorn, .inr rfl⟩
  have hposition := Graph.positionOf?_eq_some_iff.2 ht
  obtain ⟨tr, htr, hwindow, -⟩ := handle_transition hh
  obtain ⟨hmode, hreached, es, heffects, hstays⟩ :=
    step_mount_target haccepts hscroll htarget hposition htr
  have hvisible : max x.window.viewport.visible 1 = max x.window.viewport.height 1 := by
    rw [Viewport.visible]
    omega
  have hmode : tr.state.scroll = x.modeAt x.window.viewport.height p := by
    rw [hmode, modeAt]
    simp only [Window.inputs, hvisible]
  have hanchor : x.modeAt x.window.viewport.height p = .lockedToBottom →
      (x.viewAt x.window.viewport.height p).anchor = none := anchor_viewAt_of_locked ht
  have hgoes : x.window.viewport.apply x.graph (.scrollToIndex t) =
      x.viewAt x.window.viewport.height p := by
    rw [Viewport.apply, Viewport.scrollToIndex, hposition]
    rfl
  rw [hmode] at hstays
  constructor
  · exact modeAt_ne_initializing _ _ _
  · exact hanchor
  · have hviewport : (x.moved tr).window.viewport =
        tr.effects.foldl (Viewport.apply x.graph) x.window.viewport := rfl
    rw [hwindow, hviewport, heffects, List.foldl_cons, hgoes]
    exact Viewport.foldl_apply hanchor hstays
  · rw [hwindow]
    exact hmode
  · rw [hwindow]
    exact hreached

/-- What follows from mounting leaves the view. -/
theorem dispatch_mount_rests (hscroll : x.window.state.scroll = .initializing)
    (htorn : x.window.state.tornDown = false) (htarget : x.window.target = some t)
    (ht : x.graph.keys[p]? = some t) (hy : x.dispatch .mount = .ok y) :
    Rests (x.viewAt x.window.viewport.height p) (x.modeAt x.window.viewport.height p) y := by
  refine dispatch_tail (Q := (·.keepsView = true)) ?_ ?_ hy
  · intro z more hh
    exact ⟨keepsView_of_handle rfl hh, handle_mount_rests hscroll htorn htarget ht hh⟩
  · intro e z z' more he hh hz
    exact ⟨keepsView_of_handle he hh, hz.handle he hh⟩

/-- To mount a session is to handle the event, and then the work begins that goes on by itself. -/
theorem exists_mount_eq (hs : s.mount rows = .ok s') :
    ∃ b tasks started, s' = { b with tasks, started } ∧
      (s.mapWindow fun w => { w with viewport.height := rows }).dispatch .mount = .ok b := by
  obtain ⟨b, hb, hs'⟩ := Checked.bind_eq_ok.1 hs
  have hsub : s' = b.subscribe := (Except.ok.inj hs').symm
  obtain ⟨tasks, started, heq⟩ := b.exists_settleMove_eq (.mount rows)
  exact ⟨b, tasks, started, hsub.trans heq, hb⟩

/-- Mounting loads nothing. -/
theorem mount_feed (hs : s.mount rows = .ok s') : s'.feed = s.feed := by
  obtain ⟨b, tasks, started, rfl, hb⟩ := exists_mount_eq hs
  exact (dispatch_asks hb).feed.trans (feed_begun_of_ne Event.noConfusion)

/-- **Mounting goes to a target that is loaded**, and rests there. -/
theorem mount_rests (hscroll : s.window.state.scroll = .initializing)
    (htorn : s.window.state.tornDown = false) (htarget : s.window.target = some t)
    (ht : s.graph.keys[p]? = some t) (hs : s.mount rows = .ok s') :
    Rests (s.viewAt rows p) (s.modeAt rows p) s' ∧ s'.feed = s.feed := by
  refine ⟨?_, mount_feed hs⟩
  obtain ⟨b, tasks, started, rfl, hb⟩ := exists_mount_eq hs
  have hrests := dispatch_mount_rests (x := s.mapWindow fun w => { w with viewport.height := rows })
    hscroll htorn htarget ht hb
  exact ⟨hrests.mounted, hrests.anchor, hrests.viewport, hrests.scroll, hrests.reached⟩

/-! ## The target -/

theorem visible_viewAt (s : Session) (rows p : Nat) : (s.viewAt rows p).visible = max rows 1 := rfl

/-- What is loaded at the ends moves the target and the message at the bottom alike, if the view is
anchored there. -/
theorem shows_of_free {pre post : List MessageIndex}
    (hkeys : s.graph.keys = pre ++ s₀.graph.keys ++ post) (ht : s₀.graph.keys[p]? = some t)
    (hview : s.window.viewport = s₀.viewAt rows p) (hfree : s₀.modeAt rows p = .freeScroll) :
    s.shows t = true := by
  obtain ⟨k, hanchor, hk⟩ := exists_anchor_viewAt ht hfree
  have hbottom := Viewport.bottomPosition?_of_anchor hanchor
    (Graph.getElem?_keys_of_append hkeys hk)
  rw [← hview] at hbottom
  rw [shows_iff (Graph.getElem?_keys_of_append hkeys ht) hbottom, hview, visible_viewAt]
  omega

/-- A view that is kept at the newest message shows a screenful of the newest ones. -/
theorem shows_iff_of_locked {pre post : List MessageIndex}
    (hkeys : s.graph.keys = pre ++ s₀.graph.keys ++ post) (ht : s₀.graph.keys[p]? = some t)
    (hview : s.window.viewport = s₀.viewAt rows p)
    (hlocked : s₀.modeAt rows p = .lockedToBottom) :
    s.shows t = true ↔ s.graph.newer t < max rows 1 := by
  have hmoved := Graph.getElem?_keys_of_append hkeys ht
  have hlt : pre.length + p < s.graph.size := by
    rw [Graph.size_eq_length_keys]
    exact (List.getElem?_eq_some_iff.1 hmoved).1
  have hbottom := Viewport.bottomPosition?_of_none (g := s.graph)
    (anchor_viewAt_of_locked ht hlocked) (by omega)
  rw [← hview] at hbottom
  rw [shows_iff hmoved hbottom, hview, visible_viewAt, Graph.newer_eq hmoved]
  omega

/-- **Whether the target stays on screen.** A session is mounted at a message that is loaded, and
then nobody scrolls or jumps, and the list keeps its height. The view goes on scrolling freely if at
least a screenful of newer messages was loaded when it was mounted, and is locked to the newest
message if not. The target is on screen just if the view scrolls freely, or if less than a screenful
of newer messages is loaded now. -/
theorem target_shown_iff (hrun : Run h₀ s₀) (hscroll : s₀.window.state.scroll = .initializing)
    (htorn : s₀.window.state.tornDown = false) (htarget : s₀.window.target = some t)
    (hloaded : s₀.graph.contains t = true) (hmount : s₀.mount rows = .ok s₁)
    (hms : ∀ m ∈ ms, m.staysAt rows = true) (hs : replay h₁ s₁ ms = some (h, s)) :
    s.window.state.scroll = s₁.window.state.scroll ∧
      (s.window.state.scroll = .freeScroll ↔ max rows 1 ≤ s₁.graph.newer t) ∧
        (s.shows t = true ↔
          s.window.state.scroll = .freeScroll ∨ s.graph.newer t < max rows 1) := by
  obtain ⟨p, ht⟩ := Graph.exists_position hloaded
  obtain ⟨hrests₁, hfeed⟩ := mount_rests hscroll htorn htarget ht hmount
  have hgraph₁ : s₁.graph = s₀.graph := by rw [graph, hfeed, graph]
  obtain ⟨hrests, hgrows⟩ := hrests₁.replay hms hs
  have hspans : ∃ a b, s₁.feed.Spans a b := hfeed ▸ hrun.tracks.exists_spans
  obtain ⟨pre, post, hkeys⟩ := hgrows.exists_keys hspans
  have hkeys : s.graph.keys = pre ++ s₀.graph.keys ++ post := by rw [← hgraph₁]; exact hkeys
  refine ⟨hrests.scroll.trans hrests₁.scroll.symm, ?_, ?_⟩
  · rw [hrests.scroll, hgraph₁]
    exact modeAt_eq_freeScroll_iff ht
  · rw [hrests.scroll]
    cases hmode : s₀.modeAt rows p with
    | initializing => exact absurd hmode (s₀.modeAt_ne_initializing rows p)
    | freeScroll => simp [shows_of_free hkeys ht hrests.viewport hmode]
    | lockedToBottom => simp [shows_iff_of_locked hkeys ht hrests.viewport hmode]

/-- A target with a screenful of newer messages stays on screen when more of them are loaded. -/
theorem target_shown_iff_free : ∃ h₀ s₀ s₁ h s t, Run h₀ s₀ ∧ s₀.window.target = some t ∧
    s₀.mount 3 = .ok s₁ ∧ replay [] s₁ [.perform 0, .hearResult] = some (h, s) ∧
      s₁.graph.size < s.graph.size ∧ s.shows t = true := by
  obtain ⟨h₀, s₀, hrun, hs⟩ := exists_run_of_trial
    { messages := 20, pageSize := 10, scrollTo := some ⟨8, by decide⟩ } []
    (fun _ s => decide (s.window.state.scroll = .initializing ∧ s.window.state.tornDown = false ∧
        ∃ t ∈ s.window.target, s.graph.contains t = true) &&
      (s.mount 3).toOption.any fun s₁ =>
        (replay [] s₁ [.perform 0, .hearResult]).any fun (r : _ × Session) =>
          decide (s₁.graph.size < r.2.graph.size ∧ r.2.window.state.scroll = .freeScroll))
    (by decide +kernel)
  obtain ⟨hbefore, hafter⟩ := Bool.and_eq_true_iff.1 hs
  obtain ⟨hscroll, htorn, t, htarget, hloaded⟩ := of_decide_eq_true hbefore
  obtain ⟨s₁, hmount, hafter⟩ := (Option.any_eq_true ..).1 hafter
  obtain ⟨⟨h, s⟩, hreplay, hafter⟩ := (Option.any_eq_true ..).1 hafter
  obtain ⟨hsize, hfree⟩ := of_decide_eq_true hafter
  have hmount := toOption_eq_some.1 hmount
  obtain ⟨-, -, hshows⟩ :=
    target_shown_iff hrun hscroll htorn htarget hloaded hmount (by decide) hreplay
  exact ⟨h₀, s₀, s₁, h, s, t, hrun, htarget, hmount, hreplay, hsize, hshows.2 (.inl hfree)⟩

/-- A target that a page of newer messages takes off screen, under a reader who does nothing. -/
theorem exists_target_off_screen : ∃ h₁ s₁ h s t, Run h₁ s₁ ∧
    s₁.window.state.isMounted = true ∧ s₁.window.target = some t ∧ s₁.graph.contains t = true ∧
      s₁.shows t = true ∧ replay h₁ s₁ [.perform 0, .hearResult] = some (h, s) ∧
        s.shows t = false := by
  obtain ⟨h₁, s₁, hrun, hs⟩ := exists_run_of_trial
    { messages := 9, pageSize := 4, scrollTo := some ⟨4, by decide⟩ } [.mount 5]
    (fun h₁ s₁ => (replay h₁ s₁ [.perform 0, .hearResult]).any fun (r : _ × Session) =>
      decide (s₁.window.state.isMounted = true ∧ ∃ t ∈ s₁.window.target,
        s₁.graph.contains t = true ∧ s₁.shows t = true ∧ r.2.shows t = false))
    (by decide +kernel)
  obtain ⟨⟨h, s⟩, hreplay, hafter⟩ := (Option.any_eq_true ..).1 hs
  obtain ⟨hm, t, htarget, hloaded, hbefore, hafter⟩ := of_decide_eq_true hafter
  exact ⟨h₁, s₁, h, s, t, hrun, hm, htarget, hloaded, hbefore, hreplay, hafter⟩

end Session

end Scrollback
