import Scrollback.Proofs.Window.Gate
/-!
# What a transition does to the unread episode

A window looks at the unread messages when it is mounted, updated or reset. It notes how many there
are and how many messages are loaded, and looks for the boundary if there is a new episode. Beyond
that a transition may look for a boundary that is not known, or dismiss the episode.

## Main definitions

* `Progress.look` — the look at the unread messages that an event begins with.
* `Progress.Watches` — what may happen to the episode after that.

## Main statements

* `Progress.handle_watches` — every event is a look and goes on by watching.
* `step_visible` — the boundary shown after a transition is the one before, or the present one.
* `step_dismisses` — unread messages are dismissed under the eyes of a reader only.
* `dismissUnread_mem_step`, `step_update_of_size_eq` — an update dismisses what has arrived if it
  finds more messages than before.
-/

namespace Scrollback

/-- The event may have the window look for a boundary. -/
def Event.seeks : Event → Bool
  | .mount | .update | .settled _ _ | .reset => true
  | _ => false

/-- The counts last seen, the boundary, and whether the episode was dismissed. -/
def WindowState.episode (s : WindowState) : Nat × Nat × Option MessageIndex × Bool :=
  (s.prevSize, s.prevUnread, s.unreadIndex, s.unreadDismissed)

@[simp] theorem WindowState.episode_setGate (s : WindowState) (d : Direction) (g : Gate) :
    (s.setGate d g).episode = s.episode := by
  cases d <;> rfl

theorem WindowState.visibleUnread_of_dismissed {s : WindowState}
    (h : s.unreadDismissed = true) : s.visibleUnread = none := if_pos h

theorem WindowState.visibleUnread_of_episode {s : WindowState} {size unread : Nat}
    {boundary : Option MessageIndex} (h : s.episode = (size, unread, boundary, false)) :
    s.visibleUnread = boundary := by
  simp only [episode, Prod.mk.injEq] at h
  obtain ⟨-, -, hindex, hopen⟩ := h
  rw [visibleUnread, hopen, hindex]
  rfl

namespace Progress

variable {inp : Inputs} {p q r : Progress} {d : Direction} {seeks : Bool}

/-- The look at the unread messages that an event begins with. -/
def look (inp : Inputs) (event : Event) (p : Progress) : Progress :=
  match event with
  | .mount =>
    if p.state.scroll ≠ .initializing then p
    else p.update fun s =>
      { s with
        prevSize := inp.graph.size
        prevUnread := inp.unread
        unreadIndex := inp.graph.unreadBoundary? inp.unread }
  | .update => (p.trackUnread inp).update fun s => { s with prevSize := inp.graph.size }
  | .reset =>
    p.update fun s =>
      { s with
        prevSize := inp.graph.size
        prevUnread := inp.unread
        unreadDismissed := false
        unreadIndex := inp.graph.unreadBoundary? inp.unread }
  | _ => p

/-- From `p` to `q` the counts last seen stay. The boundary shown stays, is hidden, or, if that may
be, is looked for among the loaded messages. Unread messages are dismissed under the eyes of a
reader only, and then no boundary is shown. -/
structure Watches (inp : Inputs) (seeks : Bool) (p q : Progress) : Prop where
  prevSize : q.state.prevSize = p.state.prevSize
  prevUnread : q.state.prevUnread = p.state.prevUnread
  visible : q.state.visibleUnread = p.state.visibleUnread ∨ q.state.visibleUnread = none ∨
    seeks = true ∧ q.state.visibleUnread = inp.graph.unreadBoundary? inp.unread
  dismissed : p.state.unreadDismissed = true → q.state.unreadDismissed = true
  effects : ∃ es, q.effects = p.effects ++ es ∧ (.dismissUnread ∈ es →
    q.state.unreadDismissed = true ∧ inp.focused = true ∧ inp.unread ≠ 0)

theorem Watches.trans (h : Watches inp seeks p q) (k : Watches inp seeks q r) :
    Watches inp seeks p r where
  prevSize := k.prevSize.trans h.prevSize
  prevUnread := k.prevUnread.trans h.prevUnread
  visible := by
    rcases k.visible with hsame | hother
    · rw [hsame]
      exact h.visible
    · exact .inr hother
  dismissed := fun hd => k.dismissed (h.dismissed hd)
  effects := by
    obtain ⟨es, hes, hdismiss⟩ := h.effects
    obtain ⟨fs, hfs, kdismiss⟩ := k.effects
    refine ⟨es ++ fs, by rw [hfs, hes, List.append_assoc], fun hmem => ?_⟩
    rcases List.mem_append.1 hmem with hmem | hmem
    · exact ⟨k.dismissed (hdismiss hmem).1, (hdismiss hmem).2⟩
    · exact kdismiss hmem

/-- What leaves the episode alone and dismisses nothing. -/
theorem Watches.of_episode (hs : q.state.episode = p.state.episode) (es : List Effect)
    (he : q.effects = p.effects ++ es) (hes : .dismissUnread ∉ es) : Watches inp seeks p q := by
  simp only [WindowState.episode, Prod.mk.injEq] at hs
  obtain ⟨hsize, hunread, hindex, hdismissed⟩ := hs
  exact
    { prevSize := hsize
      prevUnread := hunread
      visible := .inl (by rw [WindowState.visibleUnread, WindowState.visibleUnread, hindex,
        hdismissed])
      dismissed := fun hd => hdismissed.trans hd
      effects := ⟨es, he, fun hmem => absurd hmem hes⟩ }

theorem Watches.of_update {f : WindowState → WindowState}
    (hf : (f p.state).episode = p.state.episode) : Watches inp seeks p (p.update f) :=
  .of_episode hf [] (List.append_nil _).symm List.not_mem_nil

theorem Watches.refl (inp : Inputs) (p : Progress) : Watches inp seeks p p :=
  .of_episode rfl [] (List.append_nil _).symm List.not_mem_nil

/-! ## Moves -/

theorem watches_touch (inp : Inputs) (p : Progress) : Watches inp seeks p (p.touch inp) := by
  rw [touch]
  split
  · exact .of_update rfl
  · exact .refl inp p

theorem watches_scrollToLatest (inp : Inputs) (p : Progress) :
    Watches inp seeks p p.scrollToLatest :=
  .of_episode rfl [.scrollToLatest] rfl (by simp)

theorem watches_scrollToIndex (inp : Inputs) (p : Progress) (i : MessageIndex) :
    Watches inp seeks p (p.scrollToIndex inp i) := by
  rw [scrollToIndex]
  split
  · exact .refl inp p
  · exact .of_episode rfl [.scrollToIndex i] rfl (by simp)

/-- A dismissal hides the boundary. -/
theorem watches_tryDismiss (inp : Inputs) (p : Progress) :
    Watches inp seeks p (p.tryDismiss inp) := by
  rw [tryDismiss]
  split
  · exact .refl inp p
  · next hopen =>
    split
    · exact .refl inp p
    · next hnear =>
      simp only [not_or, Decidable.not_not] at hopen hnear
      exact
        { prevSize := rfl
          prevUnread := rfl
          visible := .inr (.inl rfl)
          dismissed := fun _ => rfl
          effects := ⟨[.dismissUnread], rfl, fun _ => ⟨rfl, hnear.1, hopen.2⟩⟩ }

/-- A boundary that is not known is looked for. -/
theorem watches_recomputeUnread (inp : Inputs) (p : Progress) :
    Watches inp true p (p.recomputeUnread inp) := by
  rw [recomputeUnread]
  split
  · next hunknown =>
    exact
      { prevSize := rfl
        prevUnread := rfl
        visible := .inr (.inr ⟨rfl, if_neg hunknown.2⟩)
        dismissed := id
        effects := ⟨[], (List.append_nil _).symm, fun hmem => absurd hmem List.not_mem_nil⟩ }
  · exact .refl inp p

theorem watches_reachTarget (inp : Inputs) (p : Progress) :
    Watches inp seeks p (p.reachTarget inp) := by
  rw [reachTarget]
  split
  · exact .refl inp p
  · split
    · exact .of_update rfl
    · split
      · exact (Watches.of_update rfl).trans (watches_scrollToIndex inp _ _)
      · exact .refl inp p

theorem watches_follow (inp : Inputs) (p : Progress) : Watches inp seeks p p.follow := by
  rw [follow]
  split
  · exact .of_episode rfl [.scrollToLatest] rfl (by simp)
  · exact .refl inp p

theorem watches_dismissIfActive (inp : Inputs) (p : Progress) :
    Watches inp seeks p (p.dismissIfActive inp) := by
  rw [dismissIfActive]
  split
  · exact .refl inp p
  · exact watches_tryDismiss inp p

theorem watches_requestIfIdle (inp : Inputs) (d : Direction) (p : Progress) :
    Watches inp seeks p (p.requestIfIdle d) := by
  rw [requestIfIdle]
  split
  · exact .of_episode (p.state.episode_setGate d .pending) [.fetch d] rfl (by simp)
  · exact .refl inp p

theorem watches_checkEdges (h : p.checkEdges inp = .ok q) : Watches inp seeks p q :=
  checkEdges_induction (P := Watches inp seeks p) (.refl inp p)
    (fun d q hq => hq.trans (watches_requestIfIdle inp d q)) h

/-! ## Events -/

theorem mount_watches (h : p.mount inp = .ok q) : Watches inp seeks (p.look inp .mount) q := by
  rw [mount] at h
  rw [look]
  split at h
  · next hscroll =>
    cases h
    rw [if_pos hscroll]
    exact .refl inp p
  · next hscroll =>
    rw [if_neg hscroll]
    refine Watches.trans ?_ (watches_checkEdges h)
    refine .trans (.trans ?_ (.of_update rfl)) (watches_touch inp _)
    split
    · exact (Watches.of_update rfl).trans (watches_scrollToIndex inp _ _)
    · split
      · exact watches_scrollToIndex inp _ _
      · exact watches_scrollToLatest inp _

theorem refresh_watches (h : p.refresh inp = .ok q) : Watches inp true (p.look inp .update) q := by
  rw [refresh_eq] at h
  split at h
  · next hsize =>
    cases h
    -- the size that the window remembers is the present one
    have hlook : p.look inp .update = p.trackUnread inp := by
      rw [look, hsize]
      rfl
    rw [hlook]
    exact watches_reachTarget inp _
  · refine Watches.trans ?_ (watches_checkEdges h)
    refine .trans (.trans ?_ (watches_dismissIfActive inp _)) (watches_reachTarget inp _)
    exact (watches_recomputeUnread inp _).trans (watches_follow inp _)

theorem scrolled_watches {offset : Nat} (h : p.scrolled inp offset = .ok q) :
    Watches inp seeks p q := by
  rw [scrolled] at h
  refine Watches.trans ?_ (watches_checkEdges h)
  refine .trans (.trans ?_ (.of_update rfl)) (watches_tryDismiss inp _)
  have hoffset : Watches inp seeks p { p with offset := offset } :=
    .of_episode rfl [] (List.append_nil _).symm List.not_mem_nil
  split
  · exact hoffset.trans (.of_update rfl)
  · exact hoffset.trans (watches_touch inp _)

theorem settled_watches {result : FetchResult} (h : p.settled inp d result = .ok q) :
    Watches inp true p q := by
  unfold settled at h
  split at h
  · cases h
    exact .refl inp p
  · cases result with
    | failed e =>
      cases h
      exact .of_episode (p.state.episode_setGate d .idle) [.fetchFailed d e] rfl (by simp)
    | loaded outcome =>
      have hgate (g : Gate) : Watches inp true p (p.update (·.setGate d g)) :=
        .of_update (p.state.episode_setGate d g)
      refine Watches.trans ?_ (watches_checkEdges h)
      refine Watches.trans ?_ (watches_reachTarget inp _)
      split
      · exact (hgate _).trans (watches_recomputeUnread inp _)
      · exact hgate _

theorem focusChanged_watches (inp : Inputs) (focused : Bool) (p : Progress) :
    Watches inp seeks p (p.focusChanged inp focused) := by
  rw [focusChanged]
  split
  · exact (Watches.of_update rfl).trans (watches_tryDismiss inp _)
  · exact .of_update rfl

theorem ticked_watches (inp : Inputs) (p : Progress) : Watches inp seeks p (p.ticked inp) := by
  rw [ticked]
  split
  · exact .refl inp p
  · split
    · exact .of_update rfl
    · exact .refl inp p

theorem reset_watches (h : p.reset inp = .ok q) : Watches inp seeks (p.look inp .reset) q := by
  rw [reset] at h
  refine Watches.trans ?_ (watches_checkEdges h)
  refine Watches.trans ?_ (watches_scrollToLatest inp _)
  exact .of_episode rfl [] (List.append_nil _).symm List.not_mem_nil

theorem jumpToLatest_watches (h : p.jumpToLatest inp = .ok q) : Watches inp seeks p q := by
  rw [jumpToLatest] at h
  refine Watches.trans ?_ (watches_checkEdges h)
  refine Watches.trans ?_ (watches_tryDismiss inp _)
  refine Watches.trans ?_ (watches_scrollToLatest inp _)
  exact (watches_touch inp p).trans (.of_episode rfl [.getMostRecent] rfl (by simp))

theorem jumpToUnread_watches (h : p.jumpToUnread inp = .ok q) : Watches inp seeks p q := by
  rw [jumpToUnread] at h
  split at h
  · exact ((watches_touch inp p).trans (watches_scrollToIndex inp _ _)).trans
      (watches_checkEdges h)
  · cases h
    exact watches_touch inp p

/-- Every event is a look and goes on by watching. -/
theorem handle_watches {event : Event} (h : p.handle inp event = .ok q) :
    Watches inp event.seeks (p.look inp event) q := by
  cases event with
  | mount => exact mount_watches h
  | update => exact refresh_watches h
  | scroll offset => exact scrolled_watches h
  | settled d result => exact settled_watches h
  | focus focused => cases h; exact focusChanged_watches inp focused p
  | tick => cases h; exact ticked_watches inp p
  | jumpToLatest => exact jumpToLatest_watches h
  | jumpToUnread => exact jumpToUnread_watches h
  | retry d => cases h; exact watches_requestIfIdle inp d p
  | reset => exact reset_watches h
  | teardown => cases h; exact .of_update rfl

/-! ## Updates

Whether an update dismisses what has arrived depends on how many messages are loaded: a window that
finds no more of them than before passes over the reader. -/

/-- An update that finds more messages than before, and more of them unread, dismisses them where a
reader is at the end. -/
theorem dismissUnread_mem_refresh (hscroll : p.state.scroll = .lockedToBottom)
    (hactive : p.state.idle = false) (hfocused : inp.focused = true)
    (hoffset : 0 < inp.policy.dismissOffset) (hunread : p.state.prevUnread < inp.unread)
    (hsize : inp.graph.size ≠ p.state.prevSize) (h : p.refresh inp = .ok q) :
    .dismissUnread ∈ q.effects := by
  have htracked : (p.trackUnread inp).state = { p.state with
      prevUnread := inp.unread
      unreadDismissed := false
      unreadIndex := inp.graph.unreadBoundary? inp.unread } := by
    simp only [trackUnread, update, if_pos hunread]
  have hne : ¬ inp.graph.size = (p.trackUnread inp).state.prevSize := by rwa [htracked]
  rw [refresh_eq, if_neg hne] at h
  -- the reader is still active there, at the end, and the episode is open
  have hnoted : ((p.trackUnread inp).noteSize inp).state.scroll = .lockedToBottom ∧
      ((p.trackUnread inp).noteSize inp).state.idle = false ∧
        ((p.trackUnread inp).noteSize inp).state.unreadDismissed = false := by
    rw [noteSize, recomputeUnread]
    split <;> simp only [update, htracked] <;> exact ⟨hscroll, hactive, trivial⟩
  obtain ⟨hlocked, hnotidle, hopen⟩ := hnoted
  have hdismissed : .dismissUnread ∈
      ((((p.trackUnread inp).noteSize inp).follow).dismissIfActive inp).effects := by
    have hpos : inp.unread ≠ 0 := by omega
    have hnear : ¬ inp.policy.dismissOffset ≤ 0 := by omega
    simp [follow, hlocked, dismissIfActive, emit, hnotidle, tryDismiss, update, hopen, hpos,
      hfocused, hnear]
  have hrest : Watches inp false _ q :=
    (watches_reachTarget inp _).trans (watches_checkEdges h)
  obtain ⟨es, hes, -⟩ := hrest.effects
  rw [hes]
  exact List.mem_append_left _ hdismissed

@[simp] theorem episode_reachTarget (inp : Inputs) (p : Progress) :
    (p.reachTarget inp).state.episode = p.state.episode := by
  rw [reachTarget]
  split
  · rfl
  · split
    · rfl
    · split
      · rw [scrollToIndex]
        split <;> rfl
      · rfl

/-- An update that finds as many messages as before only looks at the unread ones, and perhaps goes
to the target. -/
theorem refresh_of_size_eq (hsize : inp.graph.size = p.state.prevSize) :
    p.refresh inp = .ok ((p.look inp .update).reachTarget inp) := by
  have htracked := prevSize_trackUnread inp p
  rw [refresh_eq, if_pos (hsize.trans htracked.symm), look, hsize, ← htracked]
  rfl

/-- Going to the target asks for nothing else. -/
theorem effects_reachTarget (inp : Inputs) (p : Progress) :
    (p.reachTarget inp).effects = p.effects ∨
      ∃ i, (p.reachTarget inp).effects = p.effects ++ [.scrollToIndex i] := by
  rw [reachTarget]
  split
  · exact .inl rfl
  · split
    · exact .inl rfl
    · split
      · rw [scrollToIndex]
        split
        · exact .inl rfl
        · exact .inr ⟨_, rfl⟩
      · exact .inl rfl

/-! ## Looks -/

@[simp] theorem effects_look (inp : Inputs) (event : Event) (p : Progress) :
    (p.look inp event).effects = p.effects := by
  cases event with
  | mount =>
    rw [look]
    split <;> rfl
  | _ => rfl

/-- A look finds the boundary, or leaves it, or hides it. -/
theorem visible_look (inp : Inputs) (event : Event) (p : Progress) :
    (p.look inp event).state.visibleUnread = p.state.visibleUnread ∨
      (p.look inp event).state.visibleUnread = none ∨
      event.seeks = true ∧
        (p.look inp event).state.visibleUnread = inp.graph.unreadBoundary? inp.unread := by
  cases event with
  | mount =>
    rw [look]
    split
    · exact .inl rfl
    · by_cases hdismissed : p.state.unreadDismissed = true
      · exact .inr (.inl (if_pos hdismissed))
      · exact .inr (.inr ⟨rfl, if_neg hdismissed⟩)
  | update =>
    simp only [look, trackUnread, update, WindowState.visibleUnread]
    split
    · exact .inr (.inr ⟨rfl, rfl⟩)
    · split
      · exact .inr (.inl rfl)
      · exact .inl rfl
  | reset => exact .inr (.inr ⟨rfl, rfl⟩)
  | _ => exact .inl rfl

/-- A count that has grown opens a new episode, whose boundary is looked for. -/
theorem episode_look_update (h : p.state.prevUnread < inp.unread) :
    (p.look inp .update).state.episode =
      (inp.graph.size, inp.unread, inp.graph.unreadBoundary? inp.unread, false) := by
  simp only [look, trackUnread, update, WindowState.episode, if_pos h]

theorem visible_look_update (h : p.state.prevUnread < inp.unread) :
    (p.look inp .update).state.visibleUnread = inp.graph.unreadBoundary? inp.unread :=
  WindowState.visibleUnread_of_episode (episode_look_update h)

theorem prevUnread_look_update (inp : Inputs) (p : Progress) :
    (p.look inp .update).state.prevUnread = inp.unread := by
  simp only [look, trackUnread, update]
  split
  · rfl
  · split <;> rfl

/-- No other event begins with a look. -/
theorem look_of_ne {event : Event} (hupdate : event ≠ .update) (hreset : event ≠ .reset)
    (hmount : event = .mount → p.state.scroll ≠ .initializing) : p.look inp event = p := by
  cases event with
  | mount => rw [look, if_pos (hmount rfl)]
  | update => exact absurd rfl hupdate
  | reset => exact absurd rfl hreset
  | _ => rfl

/-- A look notes how many messages are unread, or it is none. -/
theorem prevUnread_look (inp : Inputs) (event : Event) (p : Progress) :
    (p.look inp event).state.prevUnread = inp.unread ∨
      event ≠ .update ∧ (event = .mount → p.state.scroll ≠ .initializing) ∧
        (p.look inp event).state.prevUnread = p.state.prevUnread := by
  cases event with
  | mount =>
    rw [look]
    split
    · next hscroll => exact .inr ⟨nofun, fun _ => hscroll, rfl⟩
    · exact .inl rfl
  | update => exact .inl (prevUnread_look_update inp p)
  | reset => exact .inl rfl
  | _ => exact .inr ⟨nofun, nofun, rfl⟩

/-- A look notes how many messages are loaded, or it is none. -/
theorem prevSize_look (inp : Inputs) (event : Event) (p : Progress) :
    (p.look inp event).state.prevSize = inp.graph.size ∨
      event ≠ .reset ∧ (event = .mount → p.state.scroll ≠ .initializing) ∧
        (p.look inp event).state.prevSize = p.state.prevSize := by
  cases event with
  | mount =>
    rw [look]
    split
    · next hscroll => exact .inr ⟨nofun, fun _ => hscroll, rfl⟩
    · exact .inl rfl
  | update => exact .inl rfl
  | reset => exact .inl rfl
  | _ => exact .inr ⟨nofun, nofun, rfl⟩

end Progress

/-! ## Transitions -/

variable {s : WindowState} {event : Event} {inp : Inputs} {t : Transition}

/-- A transition of a window that takes notice is a look and goes on by watching. -/
theorem step_watches (haccepts : s.accepts event = true) (h : step s event inp = .ok t) :
    ∃ q, Progress.Watches inp event.seeks (Progress.look inp event ⟨s, [], inp.offset⟩) q ∧
      t = q.finish := by
  rw [step, if_pos haccepts] at h
  obtain ⟨q, hq, rfl⟩ := Checked.map_eq_ok.1 h
  exact ⟨q, Progress.handle_watches hq, rfl⟩

/-- A transition notes how many messages are unread, or leaves what was noted. -/
theorem step_prevUnread (haccepts : s.accepts event = true) (h : step s event inp = .ok t) :
    t.state.prevUnread = inp.unread ∨ event ≠ .update ∧
      (event = .mount → s.scroll ≠ .initializing) ∧ t.state.prevUnread = s.prevUnread := by
  obtain ⟨q, hq, rfl⟩ := step_watches haccepts h
  have hlook := Progress.prevUnread_look inp event ⟨s, [], inp.offset⟩
  rw [← hq.prevUnread] at hlook
  exact hlook

/-- A transition leaves the numbers that were noted, unless it looks at the unread messages. -/
theorem step_counts_of_ne (hupdate : event ≠ .update) (hreset : event ≠ .reset)
    (hmount : event = .mount → s.scroll ≠ .initializing) (h : step s event inp = .ok t) :
    t.state.prevUnread = s.prevUnread ∧ t.state.prevSize = s.prevSize := by
  cases haccepts : s.accepts event with
  | false =>
    rw [step_of_not_accepts haccepts h]
    exact ⟨rfl, rfl⟩
  | true =>
    obtain ⟨q, hq, rfl⟩ := step_watches haccepts h
    rw [Progress.look_of_ne hupdate hreset hmount] at hq
    exact ⟨hq.prevUnread, hq.prevSize⟩

/-- An update notes how many messages are loaded. -/
theorem step_update_prevSize (haccepts : s.accepts .update = true)
    (h : step s .update inp = .ok t) : t.state.prevSize = inp.graph.size := by
  obtain ⟨q, hq, rfl⟩ := step_watches haccepts h
  exact hq.prevSize

/-- A transition notes how many messages are loaded, or leaves what was noted. -/
theorem step_prevSize (haccepts : s.accepts event = true) (h : step s event inp = .ok t) :
    t.state.prevSize = inp.graph.size ∨ event ≠ .reset ∧
      (event = .mount → s.scroll ≠ .initializing) ∧ t.state.prevSize = s.prevSize := by
  obtain ⟨q, hq, rfl⟩ := step_watches haccepts h
  have hlook := Progress.prevSize_look inp event ⟨s, [], inp.offset⟩
  rw [← hq.prevSize] at hlook
  exact hlook

/-- The boundary shown after a transition is the one before, if it is not hidden, or the one that is
found among the loaded messages now. -/
theorem step_visible (h : step s event inp = .ok t) :
    t.state.visibleUnread = s.visibleUnread ∨ t.state.visibleUnread = none ∨
      event.seeks = true ∧ t.state.visibleUnread = inp.graph.unreadBoundary? inp.unread := by
  cases haccepts : s.accepts event with
  | false =>
    rw [step_of_not_accepts haccepts h]
    exact .inl rfl
  | true =>
    obtain ⟨q, hq, rfl⟩ := step_watches haccepts h
    rcases hq.visible with hsame | hother
    · have hlook := Progress.visible_look inp event ⟨s, [], inp.offset⟩
      rw [← hsame] at hlook
      exact hlook
    · exact .inr hother

/-- After the count has grown, the boundary shown is the one that is found among the loaded messages
now, if it is not hidden. -/
theorem step_visible_of_grown (haccepts : s.accepts .update = true)
    (hgrown : s.prevUnread < inp.unread) (h : step s .update inp = .ok t) :
    t.state.visibleUnread = none ∨
      t.state.visibleUnread = inp.graph.unreadBoundary? inp.unread := by
  obtain ⟨q, hq, rfl⟩ := step_watches haccepts h
  rcases hq.visible with hsame | hhidden | ⟨-, hfound⟩
  · right
    rw [Progress.visible_look_update hgrown] at hsame
    exact hsame
  · exact .inl hhidden
  · exact .inr hfound

/-- After an exchange the boundary shown is the one that is found among the loaded messages now, if
it is not hidden. -/
theorem step_visible_of_reset (haccepts : s.accepts .reset = true)
    (h : step s .reset inp = .ok t) :
    t.state.visibleUnread = none ∨
      t.state.visibleUnread = inp.graph.unreadBoundary? inp.unread := by
  obtain ⟨q, hq, rfl⟩ := step_watches haccepts h
  rcases hq.visible with hsame | hhidden | ⟨-, hfound⟩
  · exact .inr hsame
  · exact .inl hhidden
  · exact .inr hfound

/-- An update that finds more messages than before, and more of them unread, dismisses them where a
reader is at the end. -/
theorem dismissUnread_mem_step (haccepts : s.accepts .update = true)
    (hscroll : s.scroll = .lockedToBottom) (hactive : s.idle = false)
    (hfocused : inp.focused = true) (hoffset : 0 < inp.policy.dismissOffset)
    (hunread : s.prevUnread < inp.unread) (hsize : inp.graph.size ≠ s.prevSize)
    (h : step s .update inp = .ok t) : .dismissUnread ∈ t.effects := by
  rw [step, if_pos haccepts] at h
  obtain ⟨q, hq, rfl⟩ := Checked.map_eq_ok.1 h
  exact Progress.dismissUnread_mem_refresh hscroll hactive hfocused hoffset hunread hsize hq

/-- An update that finds as many messages as before, but more of them unread, looks for the boundary
of what is unread, and neither dismisses anything nor asks for a page. -/
theorem step_update_of_size_eq (inp : Inputs) (haccepts : s.accepts .update = true)
    (hsize : inp.graph.size = s.prevSize) (hunread : s.prevUnread < inp.unread) :
    ∃ t, step s .update inp = .ok t ∧
      t.state.episode =
        (inp.graph.size, inp.unread, inp.graph.unreadBoundary? inp.unread, false) ∧
        (t.effects = [] ∨ ∃ i, t.effects = [.scrollToIndex i]) := by
  refine ⟨((Progress.look inp .update ⟨s, [], inp.offset⟩).reachTarget inp).finish, ?_, ?_,
    Progress.effects_reachTarget inp _⟩
  · rw [step, if_pos haccepts, Progress.handle, Progress.refresh_of_size_eq hsize]
    rfl
  · exact (Progress.episode_reachTarget inp _).trans (Progress.episode_look_update hunread)

/-- **Unread messages are dismissed under the eyes of a reader only**, and then no boundary is
shown any more. -/
theorem step_dismisses (h : step s event inp = .ok t) (hmem : .dismissUnread ∈ t.effects) :
    t.state.visibleUnread = none ∧ inp.focused = true ∧ inp.unread ≠ 0 := by
  cases haccepts : s.accepts event with
  | false =>
    rw [step_of_not_accepts haccepts h] at hmem
    cases hmem
  | true =>
    obtain ⟨q, hq, rfl⟩ := step_watches haccepts h
    obtain ⟨es, hes, hdismiss⟩ := hq.effects
    rw [Progress.effects_look, List.nil_append] at hes
    have hmem : .dismissUnread ∈ q.effects := hmem
    rw [hes] at hmem
    obtain ⟨hdismissed, hreader⟩ := hdismiss hmem
    exact ⟨WindowState.visibleUnread_of_dismissed hdismissed, hreader⟩

end Scrollback
