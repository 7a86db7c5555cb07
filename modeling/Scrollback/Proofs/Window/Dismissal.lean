import Scrollback.Proofs.Window.Moments
import Scrollback.Proofs.Window.Retry
/-!
# When unread messages are dismissed

A window dismisses an unread episode at one place of a transition at most: where an update has found
more or fewer messages under the eyes of an active reader, where the reader scrolls or goes to the
newest message, and where the window gains the focus. Before that place and after it the transition
spares the episode. As a dismissed episode is not dismissed again, a new episode lies between any
two dismissals of a run.

## Main definitions

* `Progress.Spares` — a move that neither dismisses the episode nor opens one.
* `WindowState.attends`, `WindowState.reckoned` — the event has the window try to dismiss, and the
  offset that counts there.
* `Event.opens` — the event opens a new episode.

## Main statements

* `step_dismissal` — a transition dismisses just if it tries to while the episode is open.
* `steps_dismissals` — dismissals are apart from each other, and each is due.
-/

namespace Scrollback

/-- The event has the window try to dismiss the unread episode. -/
def WindowState.attends (s : WindowState) (inp : Inputs) : Event → Bool
  | .update => decide (inp.graph.size ≠ s.prevSize) && !s.idle
  | .scroll _ | .jumpToLatest => true
  | .focus focused => focused
  | _ => false

/-- The offset that counts where an event has the window try to dismiss the unread episode. -/
def WindowState.reckoned (s : WindowState) (inp : Inputs) : Event → Nat
  | .scroll offset => offset
  | .jumpToLatest => 0
  | .update =>
    if inp.graph.size ≠ s.prevSize ∧ s.scroll = .lockedToBottom then 0 else inp.offset
  | _ => inp.offset

/-- The event opens a new unread episode. -/
def Event.opens (s : WindowState) (inp : Inputs) : Event → Bool
  | .update => decide (s.prevUnread < inp.unread)
  | .reset => true
  | _ => false

/-- The reader is there to see the unread messages, at an offset. -/
structure Inputs.Attended (inp : Inputs) (offset : Nat) : Prop where
  focused : inp.focused = true
  unread : inp.unread ≠ 0
  near : offset < inp.policy.dismissOffset

namespace Progress

variable {inp : Inputs} {p q r : Progress} {offset : Nat}

/-- From `p` to `q` the unread episode is neither dismissed nor opened. -/
structure Spares (p q : Progress) : Prop where
  dismissed : q.state.unreadDismissed = p.state.unreadDismissed
  effects : ∃ es, q.effects = p.effects ++ es ∧ .dismissUnread ∉ es

theorem Spares.trans (h : Spares p q) (k : Spares q r) : Spares p r where
  dismissed := k.dismissed.trans h.dismissed
  effects := by
    obtain ⟨es, hes, hnot⟩ := h.effects
    obtain ⟨fs, hfs, knot⟩ := k.effects
    refine ⟨es ++ fs, by rw [hfs, hes, List.append_assoc], fun hmem => ?_⟩
    rcases List.mem_append.1 hmem with hmem | hmem
    · exact hnot hmem
    · exact knot hmem

theorem Spares.of_append (hs : q.state.unreadDismissed = p.state.unreadDismissed)
    (es : List Effect) (he : q.effects = p.effects ++ es) (hes : .dismissUnread ∉ es) :
    Spares p q :=
  ⟨hs, es, he, hes⟩

theorem Spares.of_update {f : WindowState → WindowState}
    (hf : (f p.state).unreadDismissed = p.state.unreadDismissed) : Spares p (p.update f) :=
  .of_append hf [] (List.append_nil _).symm List.not_mem_nil

theorem Spares.refl (p : Progress) : Spares p p :=
  .of_append rfl [] (List.append_nil _).symm List.not_mem_nil

/-! ## Moves -/

theorem spares_setGate (p : Progress) (d : Direction) (g : Gate) :
    Spares p (p.update (·.setGate d g)) := by
  cases d <;> exact .of_update rfl

theorem spares_touch (inp : Inputs) (p : Progress) : Spares p (p.touch inp) := by
  rw [touch]
  split
  · exact .of_update rfl
  · exact .refl p

theorem spares_scrollToLatest (p : Progress) : Spares p p.scrollToLatest :=
  .of_append rfl [.scrollToLatest] rfl (by simp)

theorem spares_scrollToIndex (inp : Inputs) (p : Progress) (i : MessageIndex) :
    Spares p (p.scrollToIndex inp i) := by
  rw [scrollToIndex]
  split
  · exact .refl p
  · exact .of_append rfl [.scrollToIndex i] rfl (by simp)

theorem spares_recomputeUnread (inp : Inputs) (p : Progress) :
    Spares p (p.recomputeUnread inp) := by
  rw [recomputeUnread]
  split
  · exact .of_update rfl
  · exact .refl p

theorem spares_reachTarget (inp : Inputs) (p : Progress) : Spares p (p.reachTarget inp) := by
  rw [reachTarget]
  split
  · exact .refl p
  · split
    · exact .of_update rfl
    · split
      · exact (Spares.of_update rfl).trans (spares_scrollToIndex inp _ _)
      · exact .refl p

theorem spares_follow (p : Progress) : Spares p p.follow := by
  rw [follow]
  split
  · exact .of_append rfl [.scrollToLatest] rfl (by simp)
  · exact .refl p

theorem spares_requestIfIdle (d : Direction) (p : Progress) : Spares p (p.requestIfIdle d) := by
  rw [requestIfIdle]
  split
  · exact (spares_setGate p d .pending).trans (.of_append rfl [.fetch d] rfl (by simp))
  · exact .refl p

theorem spares_checkEdges (h : p.checkEdges inp = .ok q) : Spares p q :=
  checkEdges_induction (P := Spares p) (.refl p)
    (fun d q hq => hq.trans (spares_requestIfIdle d q)) h

/-! ## The place where an episode may be dismissed -/

/-- The window tries to dismiss the episode once on the way, at an offset, or spares it. -/
inductive Tries (inp : Inputs) (offset : Nat) (p q : Progress) : Bool → Prop
  | spared : Spares p q → Tries inp offset p q false
  | tried {r : Progress} : Spares p r → r.offset = offset → Spares (r.tryDismiss inp) q →
      Tries inp offset p q true

/-- What comes of it: the episode is spared, or dismissed once. -/
theorem tryDismiss_cases (inp : Inputs) (p : Progress) :
    (¬ (p.state.unreadDismissed = false ∧ inp.Attended p.offset) ∧ p.tryDismiss inp = p) ∨
      (p.state.unreadDismissed = false ∧ inp.Attended p.offset) ∧
        p.tryDismiss inp =
          (p.update fun s => { s with unreadDismissed := true }).emit .dismissUnread := by
  rw [tryDismiss]
  split
  · next hclosed =>
    refine .inl ⟨?_, rfl⟩
    rintro ⟨hopen, hattended⟩
    rcases hclosed with hclosed | hnone
    · rw [hopen] at hclosed
      cases hclosed
    · exact hattended.unread hnone
  · next hopen =>
    rw [not_or, Bool.not_eq_true] at hopen
    split
    · next hfar =>
      refine .inl ⟨?_, rfl⟩
      rintro ⟨-, hattended⟩
      rcases hfar with haway | hfar
      · exact haway hattended.focused
      · exact absurd hattended.near (by omega)
    · next hnear =>
      rw [not_or, Decidable.not_not, Nat.not_le] at hnear
      exact .inr ⟨⟨hopen.1, ⟨hnear.1, hopen.2, hnear.2⟩⟩, rfl⟩

/-- Whether an episode is dismissed on the way is decided where the window tries to. -/
theorem Tries.cases {tries : Bool} (h : Tries inp offset p q tries) :
    (¬ (tries = true ∧ p.state.unreadDismissed = false ∧ inp.Attended offset) ∧ Spares p q) ∨
      (tries = true ∧ p.state.unreadDismissed = false ∧ inp.Attended offset) ∧
        q.state.unreadDismissed = true ∧
          q.effects.count .dismissUnread = p.effects.count .dismissUnread + 1 := by
  cases h with
  | spared hspares => exact .inl ⟨fun htries => Bool.noConfusion htries.1, hspares⟩
  | @tried r hbefore hoffset hafter =>
    subst hoffset
    rw [← hbefore.dismissed]
    rcases tryDismiss_cases inp r with ⟨hnot, hsame⟩ | ⟨hdue, hdismissed⟩
    · rw [hsame] at hafter
      exact .inl ⟨fun htries => hnot htries.2, hbefore.trans hafter⟩
    · rw [hdismissed] at hafter
      refine .inr ⟨⟨rfl, hdue⟩, hafter.dismissed, ?_⟩
      obtain ⟨es, hes, hes_not⟩ := hbefore.effects
      obtain ⟨fs, hfs, hfs_not⟩ := hafter.effects
      rw [hfs, emit, update, hes]
      simp [List.count_append, List.count_eq_zero.2 hes_not, List.count_eq_zero.2 hfs_not]

/-! ## Events -/

theorem mount_spares (h : p.mount inp = .ok q) : Spares (p.look inp .mount) q := by
  rw [mount] at h
  rw [look]
  split at h
  · next hscroll =>
    cases h
    rw [if_pos hscroll]
    exact .refl p
  · next hscroll =>
    rw [if_neg hscroll]
    refine Spares.trans ?_ (spares_checkEdges h)
    refine .trans (.trans ?_ (.of_update rfl)) (spares_touch inp _)
    split
    · exact (Spares.of_update rfl).trans (spares_scrollToIndex inp _ _)
    · split
      · exact spares_scrollToIndex inp _ _
      · exact spares_scrollToLatest _

/-- Up to the place where an update tries to dismiss the episode. -/
theorem spares_follow_noteSize (inp : Inputs) (p : Progress) :
    Spares (p.look inp .update) ((p.trackUnread inp).noteSize inp).follow :=
  (spares_recomputeUnread inp _).trans (spares_follow _)

theorem idle_follow_noteSize (inp : Inputs) (p : Progress) :
    ((p.trackUnread inp).noteSize inp).follow.state.idle = p.state.idle := by
  have htracked : (p.trackUnread inp).state.idle = p.state.idle := by
    simp only [trackUnread, update]
    split
    · rfl
    · split <;> rfl
  have hnoted : ((p.trackUnread inp).noteSize inp).state.idle = p.state.idle := by
    rw [noteSize, recomputeUnread]
    split <;> exact htracked
  rw [follow]
  split <;> exact hnoted

theorem offset_follow_noteSize (inp : Inputs) (p : Progress) :
    ((p.trackUnread inp).noteSize inp).follow.offset =
      if p.state.scroll = .lockedToBottom then 0 else p.offset := by
  have hscroll : ((p.trackUnread inp).noteSize inp).state.scroll = p.state.scroll :=
    ((stays_trackUnread inp p).trans
      ((Stays.of_update rfl rfl).trans (stays_recomputeUnread inp _))).scroll
  have hoffset : ((p.trackUnread inp).noteSize inp).offset = p.offset := by
    rw [noteSize, recomputeUnread]
    split <;> rfl
  rw [follow, hscroll]
  split
  · rfl
  · exact hoffset

theorem refresh_tries (hoffset : p.offset = inp.offset) (h : p.refresh inp = .ok q) :
    Tries inp (p.state.reckoned inp .update) (p.look inp .update) q
      (p.state.attends inp .update) := by
  rw [WindowState.attends, WindowState.reckoned]
  by_cases hsize : inp.graph.size = p.state.prevSize
  · rw [refresh_of_size_eq hsize] at h
    cases h
    rw [decide_eq_false (not_not_intro hsize)]
    exact .spared (spares_reachTarget inp _)
  · rw [refresh_eq, prevSize_trackUnread, if_neg hsize, dismissIfActive,
      idle_follow_noteSize] at h
    have hbefore := spares_follow_noteSize inp p
    have hreckoned := offset_follow_noteSize inp p
    rw [decide_eq_true hsize]
    cases hidle : p.state.idle with
    | true =>
      rw [hidle, if_pos rfl] at h
      exact .spared (hbefore.trans ((spares_reachTarget inp _).trans (spares_checkEdges h)))
    | false =>
      rw [hidle, if_neg Bool.false_ne_true] at h
      refine .tried hbefore ?_ ((spares_reachTarget inp _).trans (spares_checkEdges h))
      rw [hreckoned, hoffset]
      simp [hsize]

theorem scrolled_tries {o : Nat} (h : p.scrolled inp o = .ok q) : Tries inp o p q true := by
  rw [scrolled] at h
  refine .tried ?_ ?_ (spares_checkEdges h)
  · refine Spares.trans ?_ (.of_update rfl)
    have hmoved : Spares p { p with offset := o } :=
      .of_append rfl [] (List.append_nil _).symm List.not_mem_nil
    split
    · exact hmoved.trans (.of_update rfl)
    · exact hmoved.trans (spares_touch inp _)
  · split
    · rfl
    · rw [touch]
      split <;> rfl

theorem settled_spares {d : Direction} {result : FetchResult}
    (h : p.settled inp d result = .ok q) : Spares p q := by
  unfold settled at h
  split at h
  · cases h
    exact .refl p
  · cases result with
    | failed e =>
      cases h
      exact (spares_setGate p d .idle).trans (.of_append rfl [.fetchFailed d e] rfl (by simp))
    | loaded outcome =>
      refine Spares.trans ?_ (spares_checkEdges h)
      refine Spares.trans ?_ (spares_reachTarget inp _)
      split
      · exact (spares_setGate p d _).trans (spares_recomputeUnread inp _)
      · exact spares_setGate p d _

theorem focusChanged_tries (hoffset : p.offset = inp.offset) (focused : Bool) :
    Tries inp inp.offset p (p.focusChanged inp focused) focused := by
  rw [focusChanged]
  cases focused with
  | true =>
    rw [if_pos rfl]
    exact .tried (.of_update rfl) hoffset (.refl _)
  | false =>
    rw [if_neg Bool.false_ne_true]
    exact .spared (.of_update rfl)

theorem ticked_spares (inp : Inputs) (p : Progress) : Spares p (p.ticked inp) := by
  rw [ticked]
  split
  · exact .refl p
  · split
    · exact .of_update rfl
    · exact .refl p

theorem reset_spares (h : p.reset inp = .ok q) : Spares (p.look inp .reset) q := by
  rw [reset] at h
  refine Spares.trans ?_ (spares_checkEdges h)
  refine Spares.trans ?_ (spares_scrollToLatest _)
  exact .of_append rfl [] (List.append_nil _).symm List.not_mem_nil

theorem jumpToLatest_tries (h : p.jumpToLatest inp = .ok q) : Tries inp 0 p q true := by
  rw [jumpToLatest] at h
  refine .tried ?_ rfl (spares_checkEdges h)
  refine Spares.trans ?_ (spares_scrollToLatest _)
  exact (spares_touch inp p).trans (.of_append rfl [.getMostRecent] rfl (by simp))

theorem jumpToUnread_spares (h : p.jumpToUnread inp = .ok q) : Spares p q := by
  rw [jumpToUnread] at h
  split at h
  · exact ((spares_touch inp p).trans (spares_scrollToIndex inp _ _)).trans
      (spares_checkEdges h)
  · cases h
    exact spares_touch inp p

/-- **Every event tries to dismiss the episode at one place at most**, after the look that it begins
with. -/
theorem handle_tries {event : Event} (hoffset : p.offset = inp.offset)
    (h : p.handle inp event = .ok q) :
    Tries inp (p.state.reckoned inp event) (p.look inp event) q (p.state.attends inp event) := by
  cases event with
  | mount => exact .spared (mount_spares h)
  | update => exact refresh_tries hoffset h
  | scroll offset => exact scrolled_tries h
  | settled d result => exact .spared (settled_spares h)
  | focus focused => cases h; exact focusChanged_tries hoffset focused
  | tick => cases h; exact .spared (ticked_spares inp p)
  | jumpToLatest => exact jumpToLatest_tries h
  | jumpToUnread => exact .spared (jumpToUnread_spares h)
  | retry d => cases h; exact .spared (spares_requestIfIdle d p)
  | reset => exact .spared (reset_spares h)
  | teardown => cases h; exact .spared (.of_update rfl)

/-- A look opens an episode, or leaves it, or closes it where nothing is unread any more. -/
theorem dismissed_look (inp : Inputs) (event : Event) (p : Progress) :
    (event.opens p.state inp = true ∧ (p.look inp event).state.unreadDismissed = false) ∨
      (event.opens p.state inp = false ∧
        ((p.look inp event).state.unreadDismissed = p.state.unreadDismissed ∨
          inp.unread = 0 ∧ (p.look inp event).state.unreadDismissed = true)) := by
  cases event with
  | mount =>
    rw [look]
    split <;> exact .inr ⟨rfl, .inl rfl⟩
  | update =>
    simp only [look, trackUnread, update, Event.opens]
    split
    · next hgrown => exact .inl ⟨decide_eq_true hgrown, rfl⟩
    · next hgrown =>
      refine .inr ⟨decide_eq_false hgrown, ?_⟩
      split
      · next hnone => exact .inr ⟨hnone.1, rfl⟩
      · exact .inl rfl
  | reset => exact .inl ⟨rfl, rfl⟩
  | _ => exact .inr ⟨rfl, .inl rfl⟩

end Progress

/-! ## Transitions -/

variable {s u : WindowState} {event : Event} {inp : Inputs} {t : Transition}

/-- **What a transition does to an unread episode.** It dismisses the episode once, and closes it,
where it tries to under the eyes of a reader who is near the newest message. Else it dismisses
nothing, and the episode is as the look at the unread messages has left it. -/
theorem step_dismissal (haccepts : s.accepts event = true) (h : step s event inp = .ok t) :
    (.dismissUnread ∉ t.effects ∧ t.state.unreadDismissed =
        (Progress.look inp event ⟨s, [], inp.offset⟩).state.unreadDismissed) ∨
      (Progress.look inp event ⟨s, [], inp.offset⟩).state.unreadDismissed = false ∧
        s.attends inp event = true ∧ inp.Attended (s.reckoned inp event) ∧
        t.state.unreadDismissed = true ∧ t.effects.count .dismissUnread = 1 := by
  rw [step, if_pos haccepts] at h
  obtain ⟨q, hq, rfl⟩ := Checked.map_eq_ok.1 h
  rcases (Progress.handle_tries rfl hq).cases with ⟨-, hspares⟩ | ⟨hdue, hdismissed, hcount⟩
  · obtain ⟨es, hes, hnot⟩ := hspares.effects
    rw [Progress.effects_look, List.nil_append] at hes
    have hes : q.finish.effects = es := hes
    rw [hes]
    exact .inl ⟨hnot, hspares.dismissed⟩
  · rw [Progress.effects_look, List.count_nil] at hcount
    exact .inr ⟨hdue.2.1, hdue.1, hdue.2.2, hdismissed, hcount⟩

/-- **An open episode is dismissed** where the window tries to under the eyes of a reader who is near
the newest message. -/
theorem dismissUnread_mem_of_attended (haccepts : s.accepts event = true)
    (hattends : s.attends inp event = true) (hattended : inp.Attended (s.reckoned inp event))
    (hopen : (Progress.look inp event ⟨s, [], inp.offset⟩).state.unreadDismissed = false)
    (h : step s event inp = .ok t) : .dismissUnread ∈ t.effects := by
  rw [step, if_pos haccepts] at h
  obtain ⟨q, hq, rfl⟩ := Checked.map_eq_ok.1 h
  rcases (Progress.handle_tries rfl hq).cases with ⟨hnot, -⟩ | ⟨-, -, hcount⟩
  · exact absurd ⟨hattends, hopen, hattended⟩ hnot
  · have hcount : q.finish.effects.count .dismissUnread = _ := hcount
    exact List.count_pos_iff.1 (by omega)

/-- An episode that is not dismissed stays so, unless it is dismissed by the transition or nothing
is unread; one that is dismissed stays so unless a new one is opened. -/
theorem step_dismissed (h : step s event inp = .ok t)
    (hdismissed : t.state.unreadDismissed = true) :
    .dismissUnread ∈ t.effects ∨ s.accepts event = true ∧ inp.unread = 0 ∨
      s.unreadDismissed = true ∧ (s.accepts event = true → event.opens s inp = false) := by
  cases haccepts : s.accepts event with
  | false =>
    rw [step_of_not_accepts haccepts h] at hdismissed
    exact .inr (.inr ⟨hdismissed, fun hcontra => Bool.noConfusion hcontra⟩)
  | true =>
    rcases step_dismissal haccepts h with ⟨-, hlook⟩ | ⟨-, -, -, -, hcount⟩
    · rw [hlook] at hdismissed
      rcases Progress.dismissed_look inp event ⟨s, [], inp.offset⟩ with
        ⟨-, hopen⟩ | ⟨hopens, hsame | ⟨hnone, -⟩⟩
      · rw [hopen] at hdismissed
        cases hdismissed
      · exact .inr (.inr ⟨hsame ▸ hdismissed, fun _ => hopens⟩)
      · exact .inr (.inl ⟨rfl, hnone⟩)
    · exact .inl (List.count_pos_iff.1 (by omega))

/-- A dismissed episode is neither dismissed again nor opened by an event that opens none. -/
theorem step_of_dismissed (hdismissed : s.unreadDismissed = true)
    (hopens : s.isMounted = true → event.opens s inp = false) (h : step s event inp = .ok t) :
    t.state.unreadDismissed = true ∧ .dismissUnread ∉ t.effects := by
  cases haccepts : s.accepts event with
  | false =>
    rw [step_of_not_accepts haccepts h]
    exact ⟨hdismissed, List.not_mem_nil⟩
  | true =>
    have hopens : event.opens s inp = false := by
      cases hconcerns : event.concernsUnmounted with
      | true => cases event <;> first | rfl | cases hconcerns
      | false => exact hopens (WindowState.isMounted_of_accepts haccepts hconcerns)
    have hlook : (Progress.look inp event ⟨s, [], inp.offset⟩).state.unreadDismissed = true := by
      rcases Progress.dismissed_look inp event ⟨s, [], inp.offset⟩ with
        ⟨hcontra, -⟩ | ⟨-, hsame | ⟨-, hclosed⟩⟩
      · rw [hopens] at hcontra
        cases hcontra
      · exact hsame.trans hdismissed
      · exact hclosed
    rcases step_dismissal haccepts h with ⟨hnot, hsame⟩ | ⟨hopen, -⟩
    · exact ⟨hsame.trans hlook, hnot⟩
    · rw [hlook] at hopen
      cases hopen

/-! ## Runs -/

namespace Moment

/-- A window on screen finds that a new unread episode has begun. -/
def opensEpisode (m : Moment) : Bool := m.before.isMounted && m.event.opens m.before m.inputs

/-- The offset that counts for a dismissal: the one that the reader scrolls to, none where the view
goes to the newest message, and else the one of the view. -/
def offset (m : Moment) : Nat := m.before.reckoned m.inputs m.event

end Moment

variable {ms : List Moment} {events : List (Event × Inputs)} {ts : List Transition}

/-- Nothing is dismissed from a dismissed episode on, until a new one begins. -/
theorem Leads.dismissed (h : Leads s ms u) (hs : s.unreadDismissed = true)
    (hms : ∀ m ∈ ms, m.opensEpisode = false) :
    u.unreadDismissed = true ∧ ∀ m ∈ ms, .dismissUnread ∉ m.after.effects := by
  induction h with
  | nil => exact ⟨hs, by simp⟩
  | @cons s u m ms hbefore hstep _ ih =>
    subst hbefore
    obtain ⟨hm, hms⟩ := List.forall_mem_cons.1 hms
    have hopens (hmounted : m.before.isMounted = true) :
        m.event.opens m.before m.inputs = false := by
      simpa [Moment.opensEpisode, hmounted] using hm
    obtain ⟨hafter, hnot⟩ := step_of_dismissed hs hopens hstep
    obtain ⟨hlast, hrest⟩ := ih hafter hms
    exact ⟨hlast, List.forall_mem_cons.2 ⟨hnot, hrest⟩⟩

/-- A transition that dismisses an episode is due, and does it once. -/
theorem step_dismisses_once (h : step s event inp = .ok t) (hmem : .dismissUnread ∈ t.effects) :
    s.attends inp event = true ∧ inp.Attended (s.reckoned inp event) ∧
      t.state.unreadDismissed = true ∧ t.effects.count .dismissUnread = 1 := by
  cases haccepts : s.accepts event with
  | false =>
    rw [step_of_not_accepts haccepts h] at hmem
    cases hmem
  | true =>
    rcases step_dismissal haccepts h with ⟨hnot, -⟩ | ⟨-, hdue⟩
    · exact absurd hmem hnot
    · exact hdue

/-- **Unread messages are dismissed once in an episode, and only if that is due.** In a run of a
window, whatever it is told, a new episode begins between any two dismissals, at the second one at
the latest: the messages are exchanged, or an update counts more unread ones than the window has
seen before. Each dismissal is made once, under the eyes of a reader, while something is unread and
the view is near the newest message, by an update, a scroll, a gain of the focus or a jump to the
newest message; and an update makes it only if the number of loaded messages has changed and the
reader is not idle. -/
theorem steps_dismissals (h : steps {} events = .ok ts) :
    (∀ xs a ys b zs, moments {} events ts = xs ++ a :: (ys ++ b :: zs) →
      .dismissUnread ∈ a.after.effects → .dismissUnread ∈ b.after.effects →
        ∃ m ∈ ys ++ [b], m.opensEpisode = true) ∧
    ∀ m ∈ moments {} events ts, .dismissUnread ∈ m.after.effects →
      m.after.effects.count .dismissUnread = 1 ∧
      m.inputs.focused = true ∧ 0 < m.inputs.unread ∧
      (m.event = .update ∨ (∃ offset, m.event = .scroll offset) ∨ m.event = .focus true ∨
        m.event = .jumpToLatest) ∧
      m.offset < m.inputs.policy.dismissOffset ∧
      (m.event = .update →
        m.inputs.graph.size ≠ m.before.prevSize ∧ m.before.idle = false) := by
  obtain ⟨u, hleads⟩ := leads_moments h
  refine ⟨fun xs a ys b zs hms ha hb => ?_, fun m hm hmem => ?_⟩
  · have hparts : xs ++ a :: (ys ++ b :: zs) = (xs ++ [a]) ++ ((ys ++ [b]) ++ zs) := by simp
    rw [hms, hparts] at hleads
    obtain ⟨v, hupto, hrest⟩ := hleads.split
    obtain ⟨w, hbetween, -⟩ := hrest.split
    obtain rfl := hupto.eq_of_concat
    have hstep := hupto.step_of_mem (List.mem_concat_self ..)
    obtain ⟨-, -, hdismissed, -⟩ := step_dismisses_once hstep ha
    cases hany : (ys ++ [b]).any Moment.opensEpisode with
    | true => exact List.any_eq_true.1 hany
    | false =>
      have hclosed : ∀ m ∈ ys ++ [b], m.opensEpisode = false := fun m hm =>
        Bool.eq_false_iff.2 (List.any_eq_false.1 hany m hm)
      obtain ⟨-, hspared⟩ := hbetween.dismissed hdismissed hclosed
      exact absurd hb (hspared b (List.mem_concat_self ..))
  · obtain ⟨hattends, hattended, -, hcount⟩ := step_dismisses_once (hleads.step_of_mem hm) hmem
    obtain ⟨before, event, inp, after⟩ := m
    refine ⟨hcount, hattended.focused, Nat.pos_of_ne_zero hattended.unread, ?_, hattended.near, ?_⟩
    · cases event with
      | update => exact .inl rfl
      | scroll offset => exact .inr (.inl ⟨offset, rfl⟩)
      | focus focused => exact .inr (.inr (.inl (congrArg Event.focus hattends)))
      | jumpToLatest => exact .inr (.inr (.inr rfl))
      | _ => cases hattends
    · rintro rfl
      simpa [WindowState.attends] using hattends

/-- A reader looks at the window twice while one message is unread, and again when there are two. -/
def threeGlances : List (Event × Inputs) :=
  [(.mount, { overOne with unread := 1 }), (.focus true, { overOne with unread := 1 }),
    (.focus true, { overOne with unread := 1 }), (.update, { overOne with unread := 2 }),
    (.focus true, { overOne with unread := 2 })]

/-- The second glance dismisses nothing, and the third one what has arrived in between. -/
theorem steps_dismissals_threeGlances : ∃ ts, steps {} threeGlances = .ok ts ∧
    ts.map (·.effects.count .dismissUnread) = [0, 1, 0, 0, 1] ∧
    ∃ m ∈ moments {} threeGlances ts, m.opensEpisode = true := by
  refine ⟨_, rfl, rfl, ?_⟩
  obtain ⟨hbetween, -⟩ := steps_dismissals (show steps {} threeGlances = .ok _ from rfl)
  obtain ⟨m, hm, hopens⟩ := hbetween [_] _ [_, _] _ [] rfl (by decide) (by decide)
  exact ⟨m, List.mem_cons_of_mem _ (List.mem_cons_of_mem _ hm), hopens⟩

end Scrollback
