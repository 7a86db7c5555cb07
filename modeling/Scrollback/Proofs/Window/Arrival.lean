import Scrollback.Proofs.Window.Coverage
import Scrollback.Proofs.Window.Moments
import Scrollback.Proofs.Window.Retry
/-!
# When a window goes to its target

A window that is opened at a message goes there once. It does so when it comes on screen, when it is
told of an update or when a page arrives, whichever of them comes first upon a loaded target; an
exchange of the loaded messages gives the target up. Either way the target counts as reached from
then on, and only a jump to the unread messages may lead there again.

## Main definitions

* `Progress.Skips`, `Progress.Goes` — moves that do not go to the target, and those that do, once.
* `Moment.Appears`, `Moment.Brings`, `Moment.Exchanges` — where a window looks for its target, and
  where it gives it up.
* `arrivals` — how often a run goes to the target, not counting jumps to the unread messages.

## Main statements

* `Moment.heads` — a transition goes to the target just if it comes upon it first.
* `Leads.arrivals_le` — a run that goes to the target finds it not reached and leaves it reached.
* `steps_target_once` — the target is gone to once at most, and as soon as it is loaded.
-/

namespace Scrollback

namespace Progress

variable {inp : Inputs} {p q r : Progress} {d : Direction} {target : MessageIndex}

/-- From `p` to `q` the target is not gone to, and counts as reached just if it did before. -/
structure Skips (target : MessageIndex) (p q : Progress) : Prop where
  targetReached : q.state.targetReached = p.state.targetReached
  effects : ∃ es, q.effects = p.effects ++ es ∧ .scrollToIndex target ∉ es

/-- From `p` to `q` the target is gone to once, for the first time. -/
structure Goes (target : MessageIndex) (p q : Progress) : Prop where
  was_away : p.state.targetReached = false
  targetReached : q.state.targetReached = true
  effects : ∃ es, q.effects = p.effects ++ es ∧ es.count (.scrollToIndex target) = 1

theorem Skips.refl (target : MessageIndex) (p : Progress) : Skips target p p :=
  ⟨rfl, [], (List.append_nil _).symm, List.not_mem_nil⟩

theorem Skips.trans (h : Skips target p q) (k : Skips target q r) : Skips target p r where
  targetReached := k.targetReached.trans h.targetReached
  effects := by
    obtain ⟨es, hes, hnot⟩ := h.effects
    obtain ⟨fs, hfs, knot⟩ := k.effects
    refine ⟨es ++ fs, by rw [hfs, hes, List.append_assoc], fun hmem => ?_⟩
    rcases List.mem_append.1 hmem with hmem | hmem
    · exact hnot hmem
    · exact knot hmem

theorem Skips.goes (h : Skips target p q) (k : Goes target q r) : Goes target p r where
  was_away := h.targetReached ▸ k.was_away
  targetReached := k.targetReached
  effects := by
    obtain ⟨es, hes, hnot⟩ := h.effects
    obtain ⟨fs, hfs, hone⟩ := k.effects
    refine ⟨es ++ fs, by rw [hfs, hes, List.append_assoc], ?_⟩
    rw [List.count_append, List.count_eq_zero.2 hnot, hone]

theorem Goes.skips (h : Goes target p q) (k : Skips target q r) : Goes target p r where
  was_away := h.was_away
  targetReached := k.targetReached.trans h.targetReached
  effects := by
    obtain ⟨es, hes, hone⟩ := h.effects
    obtain ⟨fs, hfs, hnot⟩ := k.effects
    refine ⟨es ++ fs, by rw [hfs, hes, List.append_assoc], ?_⟩
    rw [List.count_append, hone, List.count_eq_zero.2 hnot]

theorem Skips.of_update {f : WindowState → WindowState}
    (hf : (f p.state).targetReached = p.state.targetReached) : Skips target p (p.update f) :=
  ⟨hf, [], (List.append_nil _).symm, List.not_mem_nil⟩

/-- A view that is moved to the newest message at most does not go to the target. -/
theorem Stays.skips (h : Stays p q) (target : MessageIndex) : Skips target p q where
  targetReached := h.targetReached
  effects := by
    obtain ⟨es, hes, hstays⟩ := h.effects
    refine ⟨es, hes, fun hmem => ?_⟩
    obtain ⟨heq, -⟩ := hstays _ hmem rfl
    cases heq

/-! ## Moves -/

theorem skips_scrollToLatest (target : MessageIndex) (p : Progress) :
    Skips target p p.scrollToLatest :=
  ⟨rfl, [.scrollToLatest], rfl, by simp⟩

theorem skips_scrollToIndex {i : MessageIndex} (h : i ≠ target) (inp : Inputs) (p : Progress) :
    Skips target p (p.scrollToIndex inp i) := by
  rw [scrollToIndex]
  split
  · exact .refl target p
  · exact ⟨rfl, [.scrollToIndex i], rfl, by simpa using h.symm⟩

/-- A target that is loaded and counts as reached is gone to by a move there. -/
theorem goes_scrollToIndex (haway : p.state.targetReached = false)
    (hloaded : inp.graph.contains target = true) :
    Goes target p
      ((p.update fun s => { s with targetReached := true }).scrollToIndex inp target) := by
  obtain ⟨position, hposition⟩ := Graph.exists_position hloaded
  rw [scrollToIndex_of_position (Graph.positionOf?_eq_some_iff.2 hposition)]
  exact ⟨haway, rfl, [.scrollToIndex target], rfl, by simp⟩

/-- **The target is gone to where it is loaded for the first time**, and skipped elsewhere. -/
theorem reachTarget_cases (htarget : inp.target = some target) (p : Progress) :
    Skips target p (p.reachTarget inp) ∨
      inp.graph.contains target = true ∧ Goes target p (p.reachTarget inp) := by
  rw [reachTarget]
  split
  · exact .inl (.refl target p)
  · next haway =>
    simp only [htarget]
    split
    · next hloaded =>
      exact .inr ⟨hloaded, goes_scrollToIndex (Bool.not_eq_true _ ▸ haway) hloaded⟩
    · exact .inl (.refl target p)

/-! ## Events -/

/-- Mounting goes to a target that is loaded. -/
theorem mount_goes (hscroll : p.state.scroll = .initializing) (htarget : inp.target = some target)
    (haway : p.state.targetReached = false) (hloaded : inp.graph.contains target = true)
    (h : p.mount inp = .ok q) : Goes target p q := by
  obtain ⟨r, hreached, hnone, hstays⟩ := mount_target hscroll htarget hloaded h
  obtain ⟨position, hposition⟩ := Graph.exists_position hloaded
  rw [scrollToIndex_of_position (Graph.positionOf?_eq_some_iff.2 hposition)] at hstays
  have hlast := hstays.skips target
  refine ⟨haway, hlast.targetReached.trans hreached, ?_⟩
  obtain ⟨es, hes, hnot⟩ := hlast.effects
  refine ⟨.scrollToIndex target :: es, ?_, ?_⟩
  · rw [hes, hnone, List.append_assoc, List.singleton_append]
  · rw [List.count_cons_self, List.count_eq_zero.2 hnot]

/-- Mounting skips a target that is not loaded, for the unread boundary or for the end. -/
theorem mount_skips (htarget : inp.target = some target)
    (hloaded : inp.graph.contains target = false) (h : p.mount inp = .ok q) :
    Skips target p q := by
  have hfound : inp.target.filter inp.graph.contains = none := by
    rw [htarget, Option.filter_some, hloaded, if_neg Bool.false_ne_true]
  rw [mount] at h
  split at h
  · cases h
    exact .refl target p
  · simp only [hfound] at h
    refine Skips.trans ?_ (((stays_touch inp _).trans (stays_checkEdges h)).skips target)
    refine Skips.trans ?_ (.of_update ?_)
    · have hnoted : Skips target p (p.update fun s =>
          { s with
            prevSize := inp.graph.size
            prevUnread := inp.unread
            unreadIndex := inp.graph.unreadBoundary? inp.unread }) := .of_update rfl
      refine hnoted.trans ?_
      split
      · next hunread =>
        rw [WindowState.visibleUnread] at hunread
        split at hunread
        · cases hunread
        · -- the unread boundary is loaded, and the target is not
          refine skips_scrollToIndex ?_ inp _
          rintro rfl
          rw [Graph.contains_iff_mem_keys.2 (Graph.unreadBoundary?_mem_keys hunread)] at hloaded
          cases hloaded
      · exact skips_scrollToLatest target _
    · rw [htarget]
      exact Bool.or_false _

theorem scrolled_skips {offset : Nat} (target : MessageIndex) (h : p.scrolled inp offset = .ok q) :
    Skips target p q := by
  rw [scrolled] at h
  refine Skips.trans ?_ (((stays_tryDismiss inp _).trans (stays_checkEdges h)).skips target)
  have hmoved : Skips target p { p with offset := offset } :=
    ⟨rfl, [], (List.append_nil _).symm, List.not_mem_nil⟩
  refine (hmoved.trans ?_).trans (.of_update rfl)
  split
  · exact .of_update rfl
  · exact (stays_touch inp _).skips target

theorem jumpToLatest_skips (target : MessageIndex) (h : p.jumpToLatest inp = .ok q) :
    Skips target p q := by
  rw [jumpToLatest] at h
  refine Skips.trans ?_ (((stays_tryDismiss inp _).trans (stays_checkEdges h)).skips target)
  refine Skips.trans ?_ (skips_scrollToLatest target _)
  refine ((stays_touch inp p).skips target).trans ?_
  exact ⟨rfl, [.getMostRecent], rfl, by simp⟩

/-- Exchanged messages give the target up. -/
theorem reset_drops (target : MessageIndex) (h : p.reset inp = .ok q) :
    q.state.targetReached = true ∧
      ∃ es, q.effects = p.effects ++ es ∧ .scrollToIndex target ∉ es := by
  rw [reset] at h
  have hlast := (skips_scrollToLatest target _).trans ((stays_checkEdges h).skips target)
  exact ⟨hlast.targetReached, hlast.effects⟩

theorem targetReached_jumpToUnread (h : p.jumpToUnread inp = .ok q) :
    q.state.targetReached = p.state.targetReached := by
  have htouched := (stays_touch inp p).targetReached
  rw [jumpToUnread] at h
  split at h
  · refine (stays_checkEdges h).targetReached.trans ?_
    rw [scrollToIndex]
    split <;> exact htouched
  · cases h
    exact htouched

end Progress

/-- The event has a window that takes notice of it look for its target: it comes on screen, or an
update or a page that it waits for tells of loaded messages. -/
def Event.Seeks (s : WindowState) : Event → Prop
  | .mount => s.scroll = .initializing
  | .update => True
  | .settled d result => s.gate d = .pending ∧ result.isLoaded = true
  | _ => False

namespace Progress

variable {inp : Inputs} {p q : Progress} {target : MessageIndex}

/-- **Every event goes to the target once or not at all**: where it looks for the target and comes
upon it first. An exchange gives the target up, and a jump to the unread messages does not bear on
whether it was reached. -/
theorem handle_heads {event : Event} (htarget : inp.target = some target)
    (haway : p.state.scroll = .initializing → p.state.targetReached = false)
    (h : p.handle inp event = .ok q) :
    (event ≠ .jumpToUnread ∧ Skips target p q) ∨
      (event.Seeks p.state ∧ inp.graph.contains target = true ∧ Goes target p q) ∨
      (event = .reset ∧ q.state.targetReached = true ∧
        ∃ es, q.effects = p.effects ++ es ∧ .scrollToIndex target ∉ es) ∨
      event = .jumpToUnread ∧ q.state.targetReached = p.state.targetReached := by
  have around {r : Progress} (hbefore : Stays p r) (hafter : Stays (r.reachTarget inp) q) :
      Skips target p q ∨ inp.graph.contains target = true ∧ Goes target p q := by
    have hbefore := hbefore.skips target
    have hafter := hafter.skips target
    rcases reachTarget_cases htarget r with hskips | ⟨hloaded, hgoes⟩
    · exact .inl ((hbefore.trans hskips).trans hafter)
    · exact .inr ⟨hloaded, (hbefore.goes hgoes).skips hafter⟩
  cases event with
  | mount =>
    by_cases hscroll : p.state.scroll = .initializing
    · cases hloaded : inp.graph.contains target with
      | true => exact .inr (.inl ⟨hscroll, rfl, mount_goes hscroll htarget (haway hscroll) hloaded h⟩)
      | false => exact .inl ⟨Event.noConfusion, mount_skips htarget hloaded h⟩
    · rw [handle, mount, if_pos hscroll] at h
      cases h
      exact .inl ⟨Event.noConfusion, .refl target p⟩
  | update =>
    obtain ⟨r, hbefore, hafter⟩ := refresh_reaches h
    rcases around hbefore hafter with hskips | ⟨hloaded, hgoes⟩
    · exact .inl ⟨Event.noConfusion, hskips⟩
    · exact .inr (.inl ⟨trivial, hloaded, hgoes⟩)
  | settled d result =>
    rcases settled_stays_or_reaches h with hstays | ⟨hpending, hresult, r, hbefore, hafter⟩
    · exact .inl ⟨Event.noConfusion, hstays.skips target⟩
    · rcases around hbefore hafter with hskips | ⟨hloaded, hgoes⟩
      · exact .inl ⟨Event.noConfusion, hskips⟩
      · exact .inr (.inl ⟨⟨hpending, hresult⟩, hloaded, hgoes⟩)
  | scroll offset => exact .inl ⟨Event.noConfusion, scrolled_skips target h⟩
  | jumpToLatest => exact .inl ⟨Event.noConfusion, jumpToLatest_skips target h⟩
  | jumpToUnread => exact .inr (.inr (.inr ⟨rfl, targetReached_jumpToUnread h⟩))
  | reset => exact .inr (.inr (.inl ⟨rfl, reset_drops target h⟩))
  | focus focused =>
    cases h
    exact .inl ⟨Event.noConfusion, (focusChanged_stays inp focused p).skips target⟩
  | tick =>
    cases h
    exact .inl ⟨Event.noConfusion, (ticked_stays inp p).skips target⟩
  | retry d =>
    cases h
    exact .inl ⟨Event.noConfusion, (stays_requestIfIdle d p).skips target⟩
  | teardown =>
    cases h
    exact .inl ⟨Event.noConfusion, (Stays.of_update rfl rfl).skips target⟩

end Progress

/-! ## Transitions -/

namespace Moment

/-- The window comes on screen, or is told there that what it shows may have changed. -/
def Appears (m : Moment) : Prop :=
  (m.event = .mount ∧ m.before.tornDown = false ∧ m.before.scroll = .initializing) ∨
    (m.event = .update ∧ m.before.isMounted = true)

/-- The window is on screen, and a page comes that it waits for. -/
def Brings (m : Moment) : Prop :=
  m.before.isMounted = true ∧
    ∃ d outcome, m.event = .settled d (.loaded outcome) ∧ m.before.gate d = .pending

/-- The window is on screen, and the loaded messages are exchanged for others. -/
def Exchanges (m : Moment) : Prop := m.event = .reset ∧ m.before.isMounted = true

instance (m : Moment) : Decidable m.Appears := inferInstanceAs (Decidable (_ ∨ _))

instance (m : Moment) : Decidable m.Exchanges := inferInstanceAs (Decidable (_ ∧ _))

/-- What a moment comes to for a target. -/
inductive Heads (target : MessageIndex) (m : Moment) : Prop where
  /-- It has nothing to do with the target. -/
  | skips : m.event ≠ .jumpToUnread → m.after.state.targetReached = m.before.targetReached →
      .scrollToIndex target ∉ m.after.effects → Heads target m
  /-- It comes upon the target first, and goes there. -/
  | goes : m.Appears ∨ m.Brings → m.inputs.graph.contains target = true →
      m.before.targetReached = false → m.after.state.targetReached = true →
      m.after.effects.count (.scrollToIndex target) = 1 → Heads target m
  /-- It gives the target up. -/
  | drops : m.Exchanges → m.after.state.targetReached = true →
      .scrollToIndex target ∉ m.after.effects → Heads target m
  /-- It goes to the unread messages, wherever they are. -/
  | jumps : m.event = .jumpToUnread → m.after.state.targetReached = m.before.targetReached →
      Heads target m

variable {m : Moment} {target : MessageIndex}

/-- A window that takes notice of an event and looks for its target then appears, or is brought a
page. -/
theorem appears_or_brings (haccepts : m.before.accepts m.event = true)
    (hseeks : m.event.Seeks m.before) : m.Appears ∨ m.Brings := by
  obtain ⟨s, event, inp, t⟩ := m
  cases event with
  | mount => exact .inl (.inl ⟨rfl, (WindowState.accepts_iff.1 haccepts).1, hseeks⟩)
  | update => exact .inl (.inr ⟨rfl, WindowState.isMounted_of_accepts haccepts rfl⟩)
  | settled d result =>
    obtain ⟨hpending, hloaded⟩ := hseeks
    cases result with
    | failed e => cases hloaded
    | loaded outcome =>
      exact .inr ⟨WindowState.isMounted_of_accepts haccepts rfl, d, outcome, rfl, hpending⟩
  | _ => exact hseeks.elim

/-- **A transition goes to the target just if it comes upon it first**, where it looks for it, and
then once. -/
theorem heads (hstep : step m.before m.event m.inputs = .ok m.after)
    (htarget : m.inputs.target = some target)
    (haway : m.before.scroll = .initializing → m.before.targetReached = false) :
    m.Heads target := by
  cases haccepts : m.before.accepts m.event with
  | false =>
    have hsame := step_of_not_accepts haccepts hstep
    by_cases hjump : m.event = .jumpToUnread
    · exact .jumps hjump (by rw [hsame])
    · exact .skips hjump (by rw [hsame]) (by simp [hsame])
  | true =>
    rw [step, if_pos haccepts] at hstep
    obtain ⟨q, hq, hafter⟩ := Checked.map_eq_ok.1 hstep
    have hstate : m.after.state = q.state := by rw [← hafter, Progress.finish]
    have heffects : m.after.effects = q.effects := by rw [← hafter, Progress.finish]
    rcases Progress.handle_heads htarget haway hq with
      ⟨hevent, hskips⟩ | ⟨hseeks, hloaded, hgoes⟩ | ⟨hreset, hreached, es, hes, hnot⟩ |
        ⟨hjump, hsame⟩
    · obtain ⟨es, hes, hnot⟩ := hskips.effects
      refine .skips hevent (hstate ▸ hskips.targetReached) ?_
      rw [heffects, hes]
      exact hnot
    · obtain ⟨es, hes, hone⟩ := hgoes.effects
      refine .goes (appears_or_brings haccepts hseeks) hloaded hgoes.was_away
        (hstate ▸ hgoes.targetReached) ?_
      rw [heffects, hes]
      exact hone
    · refine .drops ⟨hreset, ?_⟩ (hstate ▸ hreached) ?_
      · exact WindowState.isMounted_of_accepts haccepts (hreset ▸ rfl)
      · rw [heffects, hes]
        exact hnot
    · exact .jumps hjump (hstate ▸ hsame)

/-- A window that is not on screen has not reached its target. -/
theorem away_after (hstep : step m.before m.event m.inputs = .ok m.after)
    (haway : m.before.scroll = .initializing → m.before.targetReached = false)
    (hscroll : m.after.state.scroll = .initializing) : m.after.state.targetReached = false := by
  cases haccepts : m.before.accepts m.event with
  | false =>
    rw [step_of_not_accepts haccepts hstep] at hscroll ⊢
    exact haway hscroll
  | true =>
    by_cases htorn : m.event = .teardown
    · rw [htorn] at haccepts hstep
      rw [step_teardown haccepts hstep] at hscroll ⊢
      exact haway hscroll
    · exact absurd hscroll (step_scroll haccepts htorn hstep)

/-- A target that is loaded when the window appears is reached from then on. -/
theorem Appears.reaches (h : m.Appears) (hstep : step m.before m.event m.inputs = .ok m.after)
    (htarget : m.inputs.target = some target) (hloaded : m.inputs.graph.contains target = true) :
    m.after.state.targetReached = true := by
  rcases h with ⟨hmount, htorn, hscroll⟩ | ⟨hupdate, hmounted⟩
  · have haccepts : m.before.accepts m.event = true := by
      rw [hmount]
      exact WindowState.accepts_iff.2 ⟨htorn, .inr rfl⟩
    exact step_arrived haccepts hstep htarget hloaded (.inr (.inr (.inr ⟨hmount, hscroll⟩)))
  · exact step_arrived (WindowState.accepts_of_isMounted hmounted _) hstep htarget hloaded
      (.inr (.inl hupdate))

/-- A window that appears while its target is loaded goes there, unless it was reached before. -/
theorem Appears.goes_or_reached (h : m.Appears)
    (hstep : step m.before m.event m.inputs = .ok m.after)
    (htarget : m.inputs.target = some target)
    (haway : m.before.scroll = .initializing → m.before.targetReached = false)
    (hloaded : m.inputs.graph.contains target = true) :
    .scrollToIndex target ∈ m.after.effects ∨ m.before.targetReached = true := by
  have hevent : m.event = .mount ∨ m.event = .update := h.imp (·.1) (·.1)
  cases heads hstep htarget haway with
  | skips _ hsame _ => exact .inr (hsame ▸ h.reaches hstep htarget hloaded)
  | goes _ _ _ _ hone => exact .inl (List.count_pos_iff.1 (by omega))
  | drops hexchanges _ _ => simp [hexchanges.1] at hevent
  | jumps hjump _ => simp [hjump] at hevent

/-- A window whose messages are exchanged has given its target up. -/
theorem Exchanges.drops (h : m.Exchanges) (hstep : step m.before m.event m.inputs = .ok m.after) :
    m.after.state.targetReached = true ∧ .scrollToIndex target ∉ m.after.effects := by
  obtain ⟨hreset, hmounted⟩ := h
  rw [hreset, step, if_pos (WindowState.accepts_of_isMounted hmounted _)] at hstep
  obtain ⟨q, hq, hafter⟩ := Checked.map_eq_ok.1 hstep
  obtain ⟨hreached, es, hes, hnot⟩ := Progress.reset_drops target hq
  rw [← hafter]
  refine ⟨hreached, fun hmem => hnot ?_⟩
  have hes : q.finish.effects = es := hes
  rwa [hes] at hmem

end Moment

/-! ## Runs -/

/-- How often the moments of a run go to a target, not counting jumps to the unread messages. -/
def arrivals (target : MessageIndex) (ms : List Moment) : Nat :=
  ((ms.filter (·.event ≠ .jumpToUnread)).flatMap (·.after.effects)).count (.scrollToIndex target)

variable {s u : WindowState} {m : Moment} {ms : List Moment} {target : MessageIndex}
  {events : List (Event × Inputs)} {ts : List Transition}

/-- A moment counts with what it does, unless it goes to the unread messages. -/
theorem arrivals_cons (target : MessageIndex) (m : Moment) (ms : List Moment) :
    arrivals target (m :: ms) = (if m.event = .jumpToUnread then 0
      else m.after.effects.count (.scrollToIndex target)) + arrivals target ms := by
  rw [arrivals, arrivals, List.filter_cons]
  split
  · next hevent =>
    rw [if_neg (of_decide_eq_true hevent), List.flatMap_cons, List.count_append]
  · next hevent =>
    rw [if_pos (by simpa using hevent), Nat.zero_add]

namespace Leads

/-- A window that is not on screen at the beginning of a part of a run has not reached its target;
so it is at the end. -/
theorem away (h : Leads s ms u)
    (haway : s.scroll = .initializing → s.targetReached = false) :
    u.scroll = .initializing → u.targetReached = false := by
  induction h with
  | nil => exact haway
  | cons hbefore hstep _ ih =>
    subst hbefore
    exact ih (Moment.away_after hstep haway)

/-- **A run that goes to its target finds it not reached and leaves it reached**, so that it goes
there once at most. -/
theorem arrivals_le (h : Leads s ms u) (htarget : ∀ m ∈ ms, m.inputs.target = some target)
    (haway : s.scroll = .initializing → s.targetReached = false) :
    arrivals target ms + s.targetReached.toNat ≤ u.targetReached.toNat := by
  induction h with
  | nil => exact Nat.le_of_eq (Nat.zero_add _)
  | @cons s u m ms hbefore hstep _ ih =>
    subst hbefore
    obtain ⟨hm, hms⟩ := List.forall_mem_cons.1 htarget
    have hrest := ih hms (Moment.away_after hstep haway)
    rw [arrivals_cons]
    cases Moment.heads hstep hm haway with
    | skips hevent hsame hnot =>
      rw [if_neg hevent, List.count_eq_zero.2 hnot, ← hsame]
      omega
    | goes _ _ hfalse htrue hone =>
      rw [htrue] at hrest
      rw [hfalse, hone]
      split <;> simp only [Bool.toNat_true, Bool.toNat_false] at hrest ⊢ <;> omega
    | drops hexchanges htrue hnot =>
      rw [htrue] at hrest
      have hle := Bool.toNat_le m.before.targetReached
      rw [List.count_eq_zero.2 hnot]
      split <;> simp only [Bool.toNat_true] at hrest <;> omega
    | jumps hjump hsame =>
      rw [if_pos hjump, ← hsame]
      omega

/-- A run that begins with an exchange of the messages does not go to its target. -/
theorem arrivals_eq_zero (h : Leads s (m :: ms) u)
    (htarget : ∀ x ∈ m :: ms, x.inputs.target = some target)
    (haway : s.scroll = .initializing → s.targetReached = false) (hexchanges : m.Exchanges) :
    arrivals target (m :: ms) = 0 := by
  cases h with
  | cons hbefore hstep hrest =>
    subst hbefore
    obtain ⟨hreached, hnot⟩ : m.after.state.targetReached = true ∧
      .scrollToIndex target ∉ m.after.effects := hexchanges.drops hstep
    have hle := hrest.arrivals_le (List.forall_mem_cons.1 htarget).2 (Moment.away_after hstep haway)
    have hone := Bool.toNat_le u.targetReached
    rw [hreached, Bool.toNat_true] at hle
    rw [arrivals_cons, List.count_eq_zero.2 hnot, ite_self]
    omega

/-- A run that leaves its target reached goes there, or exchanges the messages, unless it finds it
reached. -/
theorem exists_heads (h : Leads s ms u) (htarget : ∀ m ∈ ms, m.inputs.target = some target)
    (haway : s.scroll = .initializing → s.targetReached = false) (hs : s.targetReached = false)
    (hu : u.targetReached = true) : ∃ m ∈ ms, m.Exchanges ∨
      (m.Appears ∨ m.Brings) ∧ m.inputs.graph.contains target = true ∧
        .scrollToIndex target ∈ m.after.effects := by
  induction h with
  | nil =>
    rw [hs] at hu
    cases hu
  | @cons s u m ms hbefore hstep _ ih =>
    subst hbefore
    obtain ⟨hm, hms⟩ := List.forall_mem_cons.1 htarget
    have later (hsame : m.after.state.targetReached = m.before.targetReached) :
        ∃ x ∈ m :: ms, x.Exchanges ∨ (x.Appears ∨ x.Brings) ∧
          x.inputs.graph.contains target = true ∧ .scrollToIndex target ∈ x.after.effects := by
      obtain ⟨x, hx, hheads⟩ := ih hms (Moment.away_after hstep haway) (hsame.trans hs) hu
      exact ⟨x, List.mem_cons_of_mem _ hx, hheads⟩
    cases Moment.heads hstep hm haway with
    | skips _ hsame _ => exact later hsame
    | goes hlooks hloaded _ _ hone =>
      exact ⟨m, List.mem_cons_self .., .inr ⟨hlooks, hloaded, List.count_pos_iff.1 (by omega)⟩⟩
    | drops hexchanges _ _ => exact ⟨m, List.mem_cons_self .., .inl hexchanges⟩
    | jumps _ hsame => exact later hsame

end Leads

/-- **A window goes to its target once, as soon as it is loaded.** In a run of a window that is
opened at a target, whatever it is told besides, and not counting jumps to the unread messages, the
target is gone to once at most. The first time that the window appears while the target is loaded it
goes there, if a page that it waited for has not made it go there before; unless the messages were
exchanged by then. Once they are exchanged, the target is not gone to any more. -/
theorem steps_target_once (h : steps {} events = .ok ts)
    (htarget : ∀ x ∈ events, x.2.target = some target) :
    arrivals target (moments {} events ts) ≤ 1 ∧
    (∀ xs m ys, moments {} events ts = xs ++ m :: ys → m.Appears →
      m.inputs.graph.contains target = true →
      (∀ x ∈ xs, x.Appears → x.inputs.graph.contains target = false) →
      (∀ x ∈ xs, ¬ x.Exchanges) →
      (∃ x ∈ xs, x.Brings ∧ .scrollToIndex target ∈ x.after.effects) ∨
        .scrollToIndex target ∈ m.after.effects) ∧
    (∀ xs m ys, moments {} events ts = xs ++ m :: ys → m.Exchanges →
      arrivals target (m :: ys) = 0) := by
  obtain ⟨u, hleads⟩ := leads_moments h
  have htargets : ∀ m ∈ moments {} events ts, m.inputs.target = some target := fun m hm =>
    htarget _ (mem_of_mem_moments hm)
  have hnew : WindowState.scroll {} = .initializing → WindowState.targetReached {} = false :=
    fun _ => rfl
  refine ⟨?_, fun xs m ys hms happears hloaded hfirst hkept => ?_, fun xs m ys hms hexchanges => ?_⟩
  · have hle := hleads.arrivals_le htargets hnew
    have hone := Bool.toNat_le u.targetReached
    omega
  · rw [hms] at hleads htargets
    obtain ⟨hxs, hrest⟩ := List.forall_mem_append.1 htargets
    obtain ⟨hm, -⟩ := List.forall_mem_cons.1 hrest
    obtain ⟨v, hbefore, hafter⟩ := hleads.split
    cases hafter with
    | cons hv hstep _ =>
      subst hv
      refine (happears.goes_or_reached hstep hm (hbefore.away hnew) hloaded).symm.imp_left ?_
      intro hreached
      obtain ⟨x, hx, hexchanges | ⟨happeared | hbrings, hfound, hmem⟩⟩ :=
        hbefore.exists_heads hxs hnew rfl hreached
      · exact absurd hexchanges (hkept x hx)
      · rw [hfirst x hx happeared] at hfound
        cases hfound
      · exact ⟨x, hx, hbrings, hmem⟩
  · rw [hms] at hleads htargets
    obtain ⟨v, hbefore, hafter⟩ := hleads.split
    exact hafter.arrivals_eq_zero (List.forall_mem_append.1 htargets).2 (hbefore.away hnew)
      hexchanges

/-- A window comes on screen before its target is loaded. A page brings it, an update tells of it
again, and then the messages are exchanged. -/
def broughtByPage : List (Event × Inputs) :=
  [(.mount, { overOne with graph := .empty, target := some .first }),
    (.settled .older (.loaded .more), { overOne with target := some .first }),
    (.update, { overOne with target := some .first }),
    (.reset, { overOne with target := some .first })]

/-- The page makes the window go there, and nothing later does. -/
theorem steps_target_once_page : ∃ ts, steps {} broughtByPage = .ok ts ∧
    ts.map (·.effects.count (.scrollToIndex .first)) = [0, 1, 0, 0] ∧
    arrivals .first (moments {} broughtByPage ts) ≤ 1 ∧
    (∃ x ∈ (moments {} broughtByPage ts).take 2, x.Brings ∧
      .scrollToIndex .first ∈ x.after.effects) ∧
    arrivals .first ((moments {} broughtByPage ts).drop 3) = 0 := by
  have hsteps : steps {} broughtByPage = .ok _ := rfl
  have htarget : ∀ x ∈ broughtByPage, x.2.target = some .first := by decide
  obtain ⟨hone, hsoon, hnever⟩ := steps_target_once hsteps htarget
  refine ⟨_, hsteps, by decide, hone, ?_, hnever [_, _, _] _ [] rfl (by decide)⟩
  exact (hsoon [_, _] _ [_] rfl (by decide) (by decide) (by decide) (by decide)).resolve_right
    (by decide)

end Scrollback
