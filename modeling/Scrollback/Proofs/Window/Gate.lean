import Scrollback.Proofs.Graph.Lookup
import Scrollback.Window.Transition
/-!
# What a transition does to the gates

A transition first does what its event is about, and then goes on by quiet moves, which leave the
gates alone, and by requests, which each find a gate idle or do nothing. What holds of both kinds of
move holds of every transition.

## Main definitions

* `Progress.Quiet` — a move that only scrolls and dismisses.
* `Progress.Moves` — quiet moves and requests, one after the other.
* `WindowState.begun`, `WindowState.firstEffects` — what an event is about.

## Main statements

* `Progress.handle_looks` — every event but a repeated request is its beginning, quiet moves, and a
  look at the loaded ends if it makes the window look.
* `Progress.handle_moves` — every event is its beginning and moves from there on.
* `step_gate` — a transition asks for a page once and closes an idle gate, or leaves the gate.
* `step_effects` — the newest page is asked for by a jump to it alone, and first of all.
* `step_tornDown`, `step_scroll` — a window is taken away by a teardown alone, and is on screen
  after any other event that it takes notice of.
-/

namespace Scrollback

/-- An effect that concerns the view and the unread messages, and no page. -/
def Effect.isLocal : Effect → Bool
  | .scrollToIndex _ | .scrollToLatest | .dismissUnread => true
  | .fetch _ | .getMostRecent | .fetchFailed _ _ => false

/-- The gate that a result leaves: open, or closed for good where nothing is left to load. -/
def FetchResult.gate : FetchResult → Gate
  | .failed _ | .loaded .more => .idle
  | .loaded .exhausted => .exhausted

/-- The gates stay, and a window that is on screen stays there. -/
structure WindowState.Steady (s t : WindowState) : Prop where
  older : t.older = s.older
  newer : t.newer = s.newer
  tornDown : t.tornDown = s.tornDown
  scroll : s.scroll ≠ .initializing → t.scroll ≠ .initializing

namespace WindowState

variable {s t u : WindowState} {d : Direction}

theorem Steady.refl (s : WindowState) : Steady s s := ⟨rfl, rfl, rfl, id⟩

theorem Steady.trans (h : Steady s t) (k : Steady t u) : Steady s u :=
  ⟨k.older.trans h.older, k.newer.trans h.newer, k.tornDown.trans h.tornDown,
    fun hs => k.scroll (h.scroll hs)⟩

theorem Steady.gate (h : Steady s t) (d : Direction) : t.gate d = s.gate d := by
  cases d with
  | older => exact h.older
  | newer => exact h.newer

@[simp] theorem scroll_setGate (s : WindowState) (d : Direction) (g : Gate) :
    (s.setGate d g).scroll = s.scroll := by
  cases d <;> rfl

@[simp] theorem tornDown_setGate (s : WindowState) (d : Direction) (g : Gate) :
    (s.setGate d g).tornDown = s.tornDown := by
  cases d <;> rfl

/-- What an event changes by itself: a gate that a result opens or closes for good, both gates, or
the end of the window. -/
def begun (s : WindowState) : Event → WindowState
  | .settled d result => if s.gate d = .pending then s.setGate d result.gate else s
  | .reset => { s with older := .idle, newer := .idle }
  | .teardown => { s with tornDown := true }
  | _ => s

/-- What a transition asks for or reports before anything else. -/
def firstEffects (s : WindowState) : Event → List Effect
  | .jumpToLatest => [.getMostRecent]
  | .settled d (.failed e) => if s.gate d = .pending then [.fetchFailed d e] else []
  | _ => []

/-- The event makes the window look at the loaded ends. -/
def examines (s : WindowState) (inp : Inputs) : Event → Bool
  | .mount => decide (s.scroll = .initializing)
  | .update => decide (inp.graph.size ≠ s.prevSize)
  | .settled d result => decide (s.gate d = .pending) && result.isLoaded
  | .scroll _ | .jumpToLatest | .reset => true
  | .jumpToUnread => s.visibleUnread.isSome
  | .focus _ | .tick | .retry _ | .teardown => false

/-- An awaited result sets the gate that it leaves. -/
theorem begun_settled (h : s.gate d = .pending) (result : FetchResult) :
    s.begun (.settled d result) = s.setGate d result.gate := if_pos h

/-- A result that nothing waits for is passed over. -/
theorem begun_settled_of_ne (h : s.gate d ≠ .pending) (result : FetchResult) :
    s.begun (.settled d result) = s := if_neg h

/-- No event closes an open gate by itself. -/
theorem begun_gate_of_idle {event : Event} (h : s.gate d = .idle) :
    (s.begun event).gate d = .idle := by
  cases event with
  | settled e result =>
    by_cases hpending : s.gate e = .pending
    · have hne : d ≠ e := by
        rintro rfl
        rw [h] at hpending
        cases hpending
      rw [begun_settled hpending, gate_setGate_of_ne s hne]
      exact h
    · rw [begun_settled_of_ne hpending]
      exact h
  | reset => cases d <;> rfl
  | _ => cases d <;> exact h

theorem begun_tornDown {event : Event} (h : event ≠ .teardown) :
    (s.begun event).tornDown = s.tornDown := by
  cases event with
  | teardown => exact absurd rfl h
  | settled d result =>
    rw [begun]
    split
    · exact tornDown_setGate s d _
    · rfl
  | _ => rfl

theorem begun_scroll (s : WindowState) (event : Event) : (s.begun event).scroll = s.scroll := by
  cases event with
  | settled d result =>
    rw [begun]
    split
    · exact scroll_setGate s d _
    · rfl
  | _ => rfl

theorem count_fetch_firstEffects (s : WindowState) (event : Event) (d : Direction) :
    (s.firstEffects event).count (.fetch d) = 0 := by
  refine List.count_eq_zero.2 fun hmem => ?_
  unfold firstEffects at hmem
  split at hmem
  · simp at hmem
  · split at hmem <;> simp at hmem
  · simp at hmem

theorem getMostRecent_not_mem_firstEffects {event : Event} (h : event ≠ .jumpToLatest) :
    Effect.getMostRecent ∉ s.firstEffects event := by
  unfold firstEffects
  split
  · exact absurd rfl h
  · split <;> simp
  · exact List.not_mem_nil

/-- A failure is reported of a page that the window waited for. -/
theorem gate_of_fetchFailed_mem {event : Event} {x : FetchError}
    (h : .fetchFailed d x ∈ s.firstEffects event) : s.gate d = .pending := by
  unfold firstEffects at h
  split at h
  · simp at h
  · split at h
    · next hpending =>
      cases List.mem_singleton.1 h
      exact hpending
    · cases h
  · cases h

end WindowState

namespace Progress

variable {inp : Inputs} {p q r : Progress} {d : Direction}

/-! ## Quiet moves -/

/-- From `p` to `q` the gates stay and all new effects are local. -/
structure Quiet (p q : Progress) : Prop where
  state : p.state.Steady q.state
  effects : ∃ es, q.effects = p.effects ++ es ∧ ∀ e ∈ es, e.isLocal = true

theorem Quiet.of_effects_eq (hs : p.state.Steady q.state) (he : q.effects = p.effects) :
    Quiet p q :=
  ⟨hs, [], by rw [he, List.append_nil], by simp⟩

theorem Quiet.of_append {e : Effect} (hs : p.state.Steady q.state)
    (he : q.effects = p.effects ++ [e]) (hlocal : e.isLocal = true) : Quiet p q :=
  ⟨hs, [e], he, by simpa using hlocal⟩

theorem Quiet.refl (p : Progress) : Quiet p p := .of_effects_eq (.refl _) rfl

theorem Quiet.trans (h : Quiet p q) (k : Quiet q r) : Quiet p r := by
  obtain ⟨es, hes, hlocal⟩ := h.effects
  obtain ⟨fs, hfs, klocal⟩ := k.effects
  refine ⟨h.state.trans k.state, es ++ fs, ?_, fun e he => ?_⟩
  · rw [hfs, hes, List.append_assoc]
  · rcases List.mem_append.1 he with he | he
    · exact hlocal e he
    · exact klocal e he

theorem quiet_update {f : WindowState → WindowState} (h : p.state.Steady (f p.state)) :
    Quiet p (p.update f) :=
  .of_effects_eq h rfl

theorem modeAt_ne_initializing (offset : Nat) : modeAt offset ≠ .initializing := by
  rw [modeAt]
  split <;> decide

theorem quiet_markActive (inp : Inputs) (p : Progress) : Quiet p (p.markActive inp) :=
  quiet_update ⟨rfl, rfl, rfl, id⟩

theorem quiet_touch (inp : Inputs) (p : Progress) : Quiet p (p.touch inp) := by
  rw [touch]
  split
  · exact quiet_markActive inp p
  · exact .refl p

theorem quiet_scrollToLatest (p : Progress) : Quiet p p.scrollToLatest :=
  .of_append ⟨rfl, rfl, rfl, fun _ => ScrollMode.noConfusion⟩ rfl rfl

theorem quiet_scrollToIndex (inp : Inputs) (p : Progress) (index : MessageIndex) :
    Quiet p (p.scrollToIndex inp index) := by
  rw [scrollToIndex]
  split
  · exact .refl p
  · exact .of_append ⟨rfl, rfl, rfl, fun _ => modeAt_ne_initializing _⟩ rfl rfl

theorem quiet_tryDismiss (inp : Inputs) (p : Progress) : Quiet p (p.tryDismiss inp) := by
  rw [tryDismiss]
  split
  · exact .refl p
  · split
    · exact .refl p
    · exact .of_append ⟨rfl, rfl, rfl, id⟩ rfl rfl

theorem quiet_trackUnread (inp : Inputs) (p : Progress) : Quiet p (p.trackUnread inp) := by
  rw [trackUnread]
  refine quiet_update ?_
  split
  · exact ⟨rfl, rfl, rfl, id⟩
  · split <;> exact ⟨rfl, rfl, rfl, id⟩

theorem quiet_recomputeUnread (inp : Inputs) (p : Progress) : Quiet p (p.recomputeUnread inp) := by
  rw [recomputeUnread]
  split
  · exact quiet_update ⟨rfl, rfl, rfl, id⟩
  · exact .refl p

theorem quiet_reachTarget (inp : Inputs) (p : Progress) : Quiet p (p.reachTarget inp) := by
  rw [reachTarget]
  split
  · exact .refl p
  · split
    · exact quiet_update ⟨rfl, rfl, rfl, id⟩
    · split
      · exact (quiet_update ⟨rfl, rfl, rfl, id⟩).trans (quiet_scrollToIndex inp _ _)
      · exact .refl p

/-! ## Moves -/

/-- Quiet moves and requests lead from `p` to `q`. -/
inductive Moves (p : Progress) : Progress → Prop where
  | refl : Moves p p
  | quiet {q r : Progress} : Moves p q → Quiet q r → Moves p r
  | request {q : Progress} (d : Direction) : Moves p q → Moves p (q.requestIfIdle d)

theorem Moves.trans (h : Moves p q) (k : Moves q r) : Moves p r := by
  induction k with
  | refl => exact h
  | quiet _ hq ih => exact ih.quiet hq
  | request d _ ih => exact ih.request d

/-- **A look at the ends keeps what every request keeps**: there is nothing else to it. -/
theorem checkEdges_induction {P : Progress → Prop} (start : P p)
    (request : ∀ d q, P q → P (q.requestIfIdle d)) (h : p.checkEdges inp = .ok q) : P q := by
  have requestIf (c : Prop) [Decidable c] (d : Direction) {q : Progress} (hq : P q) :
      P (if c then q.requestIfIdle d else q) := by
    split
    · exact request d q hq
    · exact hq
  rw [checkEdges] at h
  split at h
  · cases h
    exact request .older p start
  · obtain ⟨mounted, -, h⟩ := Checked.bind_eq_ok.1 h
    obtain ⟨near, -, h⟩ := Checked.bind_eq_ok.1 h
    cases h
    exact requestIf _ .newer (requestIf _ .older start)

theorem moves_checkEdges (h : p.checkEdges inp = .ok q) : Moves p q :=
  checkEdges_induction (P := Moves p) .refl (fun d _ hq => hq.request d) h

/-- The gate of a direction was idle and one request closed it. -/
structure Requested (d : Direction) (p q : Progress) : Prop where
  was_idle : p.state.gate d = .idle
  pending : q.state.gate d = .pending
  count : q.effects.count (.fetch d) = p.effects.count (.fetch d) + 1

/-- The gate of a direction is left alone and nothing is requested there. -/
structure Untouched (d : Direction) (p q : Progress) : Prop where
  gate : q.state.gate d = p.state.gate d
  count : q.effects.count (.fetch d) = p.effects.count (.fetch d)

theorem Quiet.untouched (h : Quiet p q) (d : Direction) : Untouched d p q := by
  obtain ⟨es, hes, hlocal⟩ := h.effects
  refine ⟨h.state.gate d, ?_⟩
  have hnot : es.count (.fetch d) = 0 := by
    refine List.count_eq_zero.2 fun hmem => ?_
    have := hlocal _ hmem
    simp [Effect.isLocal] at this
  rw [hes, List.count_append, hnot, Nat.add_zero]

theorem requestIfIdle_of_idle (h : p.state.gate d = .idle) :
    Requested d p (p.requestIfIdle d) := by
  rw [requestIfIdle, if_pos h]
  refine ⟨h, WindowState.gate_setGate _ _ _, ?_⟩
  simp [emit, update]

theorem requestIfIdle_of_ne_idle (h : p.state.gate d ≠ .idle) : p.requestIfIdle d = p := by
  rw [requestIfIdle, if_neg h]

theorem untouched_requestIfIdle_of_ne {e : Direction} (h : e ≠ d) (p : Progress) :
    Untouched e p (p.requestIfIdle d) := by
  by_cases hidle : p.state.gate d = .idle
  · rw [requestIfIdle, if_pos hidle]
    refine ⟨WindowState.gate_setGate_of_ne _ h _, ?_⟩
    have hne : Effect.fetch d ≠ .fetch e := fun heq => h (Effect.fetch.inj heq).symm
    simp [emit, update, List.count_append, hne]
  · rw [requestIfIdle_of_ne_idle hidle]
    exact ⟨rfl, rfl⟩

/-- Moves request each direction once at most, and only where they found the gate idle. -/
theorem Moves.untouched_or_requested (h : Moves p q) (d : Direction) :
    Untouched d p q ∨ Requested d p q := by
  induction h with
  | refl => exact .inl ⟨rfl, rfl⟩
  | quiet _ hq ih =>
    have hu := hq.untouched d
    rcases ih with ih | ih
    · exact .inl ⟨hu.gate.trans ih.gate, hu.count.trans ih.count⟩
    · exact .inr ⟨ih.was_idle, hu.gate.trans ih.pending, hu.count.trans ih.count⟩
  | @request q e _ ih =>
    by_cases hde : d = e
    · subst hde
      rcases ih with ih | ih
      · by_cases hidle : q.state.gate d = .idle
        · have hr := requestIfIdle_of_idle hidle
          exact .inr ⟨ih.gate ▸ hidle, hr.pending, by rw [hr.count, ih.count]⟩
        · rw [requestIfIdle_of_ne_idle hidle]
          exact .inl ih
      · have hidle : q.state.gate d ≠ .idle := by rw [ih.pending]; decide
        rw [requestIfIdle_of_ne_idle hidle]
        exact .inr ih
    · have hu := untouched_requestIfIdle_of_ne hde q
      rcases ih with ih | ih
      · exact .inl ⟨hu.gate.trans ih.gate, hu.count.trans ih.count⟩
      · exact .inr ⟨ih.was_idle, hu.gate.trans ih.pending, hu.count.trans ih.count⟩

/-- Moves only add effects, and neither ask for the newest page nor report a failure. -/
theorem Moves.effects (h : Moves p q) :
    ∃ es, q.effects = p.effects ++ es ∧ ∀ e ∈ es, e.isLocal = true ∨ ∃ d, e = .fetch d := by
  induction h with
  | refl => exact ⟨[], (List.append_nil _).symm, by simp⟩
  | quiet _ hq ih =>
    obtain ⟨es, hes, hmoves⟩ := ih
    obtain ⟨fs, hfs, hlocal⟩ := hq.effects
    refine ⟨es ++ fs, by rw [hfs, hes, List.append_assoc], fun e he => ?_⟩
    rcases List.mem_append.1 he with he | he
    · exact hmoves e he
    · exact .inl (hlocal e he)
  | @request q d _ ih =>
    obtain ⟨es, hes, hmoves⟩ := ih
    by_cases hidle : q.state.gate d = .idle
    · refine ⟨es ++ [.fetch d], ?_, fun e he => ?_⟩
      · rw [requestIfIdle, if_pos hidle, emit, update, hes, List.append_assoc]
      · rcases List.mem_append.1 he with he | he
        · exact hmoves e he
        · exact .inr ⟨d, List.mem_singleton.1 he⟩
    · rw [requestIfIdle_of_ne_idle hidle]
      exact ⟨es, hes, hmoves⟩

theorem Moves.tornDown (h : Moves p q) : q.state.tornDown = p.state.tornDown := by
  induction h with
  | refl => rfl
  | quiet _ hq ih => exact hq.state.tornDown.trans ih
  | @request q d _ ih =>
    rw [requestIfIdle]
    split
    · exact (WindowState.tornDown_setGate _ _ _).trans ih
    · exact ih

theorem Moves.scroll (h : Moves p q) (hp : p.state.scroll ≠ .initializing) :
    q.state.scroll ≠ .initializing := by
  induction h with
  | refl => exact hp
  | quiet _ hq ih => exact hq.state.scroll ih
  | @request q d _ ih =>
    rw [requestIfIdle]
    split
    · exact (WindowState.scroll_setGate q.state d .pending).symm ▸ ih
    · exact ih

/-! ## Events -/

/-- What an event is about comes first. -/
def begin (p : Progress) (event : Event) : Progress :=
  { p with
    state := p.state.begun event
    effects := p.effects ++ p.state.firstEffects event }

/-- An event that asks for nothing first. -/
theorem begin_eq_update {event : Event} (he : p.state.firstEffects event = []) :
    p.begin event = p.update (·.begun event) := by
  rw [begin, he, List.append_nil]
  rfl

/-- An event that in addition changes nothing by itself has no beginning. -/
theorem begin_eq_self {event : Event} (hs : p.state.begun event = p.state)
    (he : p.state.firstEffects event = []) : p.begin event = p := by
  rw [begin, hs, he, List.append_nil]

theorem begin_settled_of_ne {result : FetchResult} (h : p.state.gate d ≠ .pending) :
    p.begin (.settled d result) = p := by
  refine begin_eq_self (WindowState.begun_settled_of_ne h result) ?_
  cases result with
  | failed e => exact if_neg h
  | loaded outcome => rfl

theorem begin_settled_loaded {outcome : FetchOutcome} (h : p.state.gate d = .pending) :
    p.begin (.settled d (.loaded outcome)) =
      p.update (·.setGate d (FetchResult.loaded outcome).gate) := by
  rw [begin_eq_update rfl, update, update, WindowState.begun_settled h]

theorem begin_settled_failed {e : FetchError} (h : p.state.gate d = .pending) :
    p.begin (.settled d (.failed e)) =
      (p.update (·.setGate d .idle)).emit (.fetchFailed d e) := by
  rw [begin, WindowState.begun_settled h, WindowState.firstEffects, if_pos h]
  rfl

theorem moves_of_quiet (h : Quiet p q) : Moves p q := Moves.refl.quiet h

/-- An event goes on by quiet moves, and ends with a look at the loaded ends if there is one. -/
inductive Looks (inp : Inputs) (p q : Progress) : Bool → Prop where
  | away : Quiet p q → Looks inp p q false
  | closely {r : Progress} : Quiet p r → r.checkEdges inp = .ok q → Looks inp p q true

theorem Looks.moves {c : Bool} (h : Looks inp p q c) : Moves p q := by
  cases h with
  | away hquiet => exact moves_of_quiet hquiet
  | closely hquiet hedges => exact (moves_of_quiet hquiet).trans (moves_checkEdges hedges)

theorem mount_looks (h : p.mount inp = .ok q) : Looks inp p q (p.state.examines inp .mount) := by
  rw [WindowState.examines]
  rw [mount] at h
  split at h
  · next hscroll =>
    cases h
    rw [decide_eq_false hscroll]
    exact .away (.refl p)
  · next hscroll =>
    rw [decide_eq_true (Decidable.not_not.1 hscroll)]
    refine .closely ?_ h
    refine .trans (.trans ?_ (quiet_update ⟨rfl, rfl, rfl, id⟩)) (quiet_touch inp _)
    split
    · exact (quiet_update ⟨rfl, rfl, rfl, id⟩).trans
        ((quiet_update ⟨rfl, rfl, rfl, id⟩).trans (quiet_scrollToIndex inp _ _))
    · split
      · exact (quiet_update ⟨rfl, rfl, rfl, id⟩).trans (quiet_scrollToIndex inp _ _)
      · exact (quiet_update ⟨rfl, rfl, rfl, id⟩).trans (quiet_scrollToLatest _)

theorem scrollToIndex_scroll {i : MessageIndex} (h : i ∈ inp.graph.keys) :
    (p.scrollToIndex inp i).state.scroll ≠ .initializing := by
  rw [scrollToIndex]
  split
  · next hnone =>
    have hsome := Graph.positionOf?_isSome_iff.2 h
    rw [hnone] at hsome
    cases hsome
  · exact modeAt_ne_initializing _

/-- Mounting always finds a place to scroll to. -/
theorem mount_scroll (h : p.mount inp = .ok q) : q.state.scroll ≠ .initializing := by
  rw [mount] at h
  split at h
  · next hscroll =>
    cases h
    exact hscroll
  · refine (moves_checkEdges h).scroll ((quiet_touch inp _).state.scroll ?_)
    refine (quiet_update ⟨rfl, rfl, rfl, id⟩).state.scroll ?_
    split
    · next htarget =>
      obtain ⟨-, hloaded⟩ := Option.filter_eq_some_iff.1 htarget
      exact scrollToIndex_scroll (Graph.contains_iff_mem_keys.1 hloaded)
    · split
      · next hunread =>
        rw [WindowState.visibleUnread] at hunread
        split at hunread
        · cases hunread
        · exact scrollToIndex_scroll (Graph.unreadBoundary?_mem_keys hunread)
      · exact ScrollMode.noConfusion

/-- Notes the present size, and looks for the unread boundary again if it is not known. -/
def noteSize (inp : Inputs) (p : Progress) : Progress :=
  (p.update fun s => { s with prevSize := inp.graph.size }).recomputeUnread inp

/-- Follows growth at the end while locked to it. -/
def follow (p : Progress) : Progress :=
  if p.state.scroll = .lockedToBottom then { p.emit .scrollToLatest with offset := 0 } else p

/-- Dismisses the unread episode unless the reader is idle. -/
def dismissIfActive (inp : Inputs) (p : Progress) : Progress :=
  if p.state.idle then p else p.tryDismiss inp

/-- An update in its parts. -/
theorem refresh_eq (p : Progress) : p.refresh inp =
    if inp.graph.size = (p.trackUnread inp).state.prevSize then
      .ok ((p.trackUnread inp).reachTarget inp)
    else
      (((((p.trackUnread inp).noteSize inp).follow).dismissIfActive inp).reachTarget inp).checkEdges
        inp := rfl

theorem quiet_noteSize (inp : Inputs) (p : Progress) : Quiet p (p.noteSize inp) :=
  (quiet_update ⟨rfl, rfl, rfl, id⟩).trans (quiet_recomputeUnread inp _)

theorem quiet_follow (p : Progress) : Quiet p p.follow := by
  rw [follow]
  split
  · exact .of_append ⟨rfl, rfl, rfl, id⟩ rfl rfl
  · exact .refl p

theorem quiet_dismissIfActive (inp : Inputs) (p : Progress) : Quiet p (p.dismissIfActive inp) := by
  rw [dismissIfActive]
  split
  · exact .refl p
  · exact quiet_tryDismiss inp p

theorem prevSize_trackUnread (inp : Inputs) (p : Progress) :
    (p.trackUnread inp).state.prevSize = p.state.prevSize := by
  simp only [trackUnread, update]
  split
  · rfl
  · split <;> rfl

theorem refresh_looks (h : p.refresh inp = .ok q) :
    Looks inp p q (p.state.examines inp .update) := by
  rw [WindowState.examines]
  rw [refresh_eq, prevSize_trackUnread] at h
  have htrack := quiet_trackUnread inp p
  split at h
  · next hsize =>
    cases h
    rw [decide_eq_false (not_not_intro hsize)]
    exact .away (htrack.trans (quiet_reachTarget inp _))
  · next hsize =>
    rw [decide_eq_true hsize]
    have hnoted := (htrack.trans (quiet_noteSize inp _)).trans (quiet_follow _)
    exact .closely ((hnoted.trans (quiet_dismissIfActive inp _)).trans (quiet_reachTarget inp _)) h

theorem scrolled_looks {offset : Nat} (h : p.scrolled inp offset = .ok q) :
    Looks inp p q true := by
  rw [scrolled] at h
  refine .closely ?_ h
  refine .trans (.trans ?_ (quiet_update ⟨rfl, rfl, rfl, fun _ => modeAt_ne_initializing _⟩))
    (quiet_tryDismiss inp _)
  split
  · exact .of_effects_eq ⟨rfl, rfl, rfl, id⟩ rfl
  · exact Quiet.trans (q := { p with offset := offset }) (.of_effects_eq ⟨rfl, rfl, rfl, id⟩ rfl)
      (quiet_touch inp _)

theorem settled_looks {result : FetchResult} (h : p.settled inp d result = .ok q) :
    Looks inp (p.begin (.settled d result)) q (p.state.examines inp (.settled d result)) := by
  rw [WindowState.examines]
  unfold settled at h
  split at h
  · next hgate =>
    cases h
    rw [begin_settled_of_ne hgate, decide_eq_false hgate]
    exact .away (.refl p)
  · next hgate =>
    have hpending := Decidable.not_not.1 hgate
    rw [decide_eq_true hpending]
    cases result with
    | failed e =>
      cases h
      rw [begin_settled_failed hpending]
      exact .away (.refl _)
    | loaded outcome =>
      rw [begin_settled_loaded hpending]
      refine .closely ?_ h
      refine Quiet.trans ?_ (quiet_reachTarget inp _)
      by_cases hd : d = .older
      · simp only [if_pos hd]
        cases outcome <;> exact quiet_recomputeUnread inp _
      · simp only [if_neg hd]
        cases outcome <;> exact .refl _

theorem focusChanged_quiet (inp : Inputs) (focused : Bool) (p : Progress) :
    Quiet p (p.focusChanged inp focused) := by
  rw [focusChanged]
  split
  · exact (quiet_markActive inp p).trans (quiet_tryDismiss inp _)
  · exact quiet_update ⟨rfl, rfl, rfl, id⟩

theorem ticked_quiet (inp : Inputs) (p : Progress) : Quiet p (p.ticked inp) := by
  rw [ticked]
  split
  · exact .refl p
  · split
    · exact quiet_update ⟨rfl, rfl, rfl, id⟩
    · exact .refl p

theorem reset_looks (h : p.reset inp = .ok q) : Looks inp (p.begin .reset) q true := by
  rw [reset] at h
  rw [begin_eq_update rfl]
  refine .closely (Quiet.trans ?_ (quiet_scrollToLatest _)) h
  exact .of_effects_eq ⟨rfl, rfl, rfl, id⟩ rfl

theorem jumpToLatest_looks (h : p.jumpToLatest inp = .ok q) :
    Looks inp (p.begin .jumpToLatest) q true := by
  rw [jumpToLatest] at h
  refine .closely ?_ h
  refine .trans (.trans ?_ (quiet_scrollToLatest _)) (quiet_tryDismiss inp _)
  rw [touch]
  split
  · exact .of_effects_eq ⟨rfl, rfl, rfl, id⟩ rfl
  · exact .refl _

theorem visibleUnread_touch (inp : Inputs) (p : Progress) :
    (p.touch inp).state.visibleUnread = p.state.visibleUnread := by
  rw [touch]
  split <;> rfl

theorem jumpToUnread_looks (h : p.jumpToUnread inp = .ok q) :
    Looks inp p q (p.state.examines inp .jumpToUnread) := by
  rw [WindowState.examines]
  rw [jumpToUnread, visibleUnread_touch] at h
  have htouch := quiet_touch inp p
  split at h
  · next i hvisible =>
    rw [hvisible]
    exact .closely (htouch.trans (quiet_scrollToIndex inp _ _)) h
  · next hvisible =>
    cases h
    rw [hvisible]
    exact .away htouch

/-- **Every event but a repeated request** is its beginning, quiet moves from there on, and a look
at the loaded ends if it makes the window look. -/
theorem handle_looks {event : Event} (hretry : ∀ d, event ≠ .retry d)
    (h : p.handle inp event = .ok q) :
    Looks inp (p.begin event) q (p.state.examines inp event) := by
  cases event with
  | mount => rw [begin_eq_self rfl rfl]; exact mount_looks h
  | update => rw [begin_eq_self rfl rfl]; exact refresh_looks h
  | scroll offset => rw [begin_eq_self rfl rfl]; exact scrolled_looks h
  | settled d result => exact settled_looks h
  | focus focused => cases h; rw [begin_eq_self rfl rfl]; exact .away (focusChanged_quiet ..)
  | tick => cases h; rw [begin_eq_self rfl rfl]; exact .away (ticked_quiet inp p)
  | jumpToLatest => exact jumpToLatest_looks h
  | jumpToUnread => rw [begin_eq_self rfl rfl]; exact jumpToUnread_looks h
  | retry d => exact absurd rfl (hretry d)
  | reset => exact reset_looks h
  | teardown => cases h; rw [begin_eq_update rfl]; exact .away (.refl _)

/-- Every event is its beginning and moves from there on. -/
theorem handle_moves {event : Event} (h : p.handle inp event = .ok q) :
    Moves (p.begin event) q := by
  by_cases hretry : ∃ d, event = .retry d
  · obtain ⟨d, rfl⟩ := hretry
    cases h
    rw [begin_eq_self rfl rfl]
    exact Moves.refl.request d
  · exact (handle_looks (fun d heq => hretry ⟨d, heq⟩) h).moves

end Progress

/-! ## Transitions -/

variable {s : WindowState} {event : Event} {inp : Inputs} {t : Transition}

theorem WindowState.accepts_iff {s : WindowState} {event : Event} : s.accepts event = true ↔
    s.tornDown = false ∧ (s.scroll ≠ .initializing ∨ event.concernsUnmounted = true) := by
  rw [accepts, Bool.and_eq_true, Bool.or_eq_true, Bool.not_eq_true', bne_iff_ne]

theorem WindowState.isMounted_iff {s : WindowState} :
    s.isMounted = true ↔ s.tornDown = false ∧ s.scroll ≠ .initializing := by
  simp [isMounted]

/-- A window on screen takes notice of everything. -/
theorem WindowState.accepts_of_isMounted {s : WindowState} (h : s.isMounted = true) (e : Event) :
    s.accepts e = true := by
  obtain ⟨htorn, hscroll⟩ := isMounted_iff.1 h
  exact accepts_iff.2 ⟨htorn, .inl hscroll⟩

/-- A window that is not on screen takes notice of coming there and of its end alone. -/
theorem WindowState.isMounted_of_accepts {s : WindowState} {e : Event} (h : s.accepts e = true)
    (he : e.concernsUnmounted = false) : s.isMounted = true := by
  obtain ⟨htorn, hscroll⟩ := accepts_iff.1 h
  apply isMounted_iff.2
  simpa [htorn, he] using hscroll

/-- A window that takes no notice of an event stays as it is. -/
theorem step_of_not_accepts (hno : s.accepts event = false) (h : step s event inp = .ok t) :
    t = ⟨s, []⟩ := by
  rw [step, hno] at h
  cases h
  rfl

/-- The transition of a window that takes notice is its beginning and moves from there on. -/
theorem step_moves (haccepts : s.accepts event = true) (h : step s event inp = .ok t) :
    ∃ q, Progress.Moves (Progress.begin ⟨s, [], inp.offset⟩ event) q ∧ t = q.finish := by
  rw [step, if_pos haccepts] at h
  obtain ⟨q, hq, rfl⟩ := Checked.map_eq_ok.1 h
  exact ⟨q, Progress.handle_moves hq, rfl⟩

/-- An event that makes the window look is its beginning, quiet moves, and the look last of all. -/
theorem step_looks (haccepts : s.accepts event = true) (hexamines : s.examines inp event = true)
    (h : step s event inp = .ok t) : ∃ r q, Progress.handle inp event ⟨s, [], inp.offset⟩ = .ok q ∧
      Progress.Quiet (Progress.begin ⟨s, [], inp.offset⟩ event) r ∧ r.checkEdges inp = .ok q ∧
        t = q.finish := by
  rw [step, if_pos haccepts] at h
  obtain ⟨q, hq, rfl⟩ := Checked.map_eq_ok.1 h
  have hretry : ∀ d, event ≠ .retry d := by
    rintro d rfl
    cases hexamines
  have hlooks := Progress.handle_looks hretry hq
  rw [hexamines] at hlooks
  cases hlooks with
  | closely hquiet hedges => exact ⟨_, q, hq, hquiet, hedges, rfl⟩

/-- **A transition asks for a page once at most, and only through an idle gate.** Either it leaves
the gate that it finds and asks for nothing there, or the gate was idle and is pending now. -/
theorem step_gate (haccepts : s.accepts event = true) (h : step s event inp = .ok t)
    (d : Direction) :
    (t.state.gate d = (s.begun event).gate d ∧ t.effects.count (.fetch d) = 0) ∨
      ((s.begun event).gate d = .idle ∧ t.state.gate d = .pending ∧
        t.effects.count (.fetch d) = 1) := by
  obtain ⟨q, hmoves, rfl⟩ := step_moves haccepts h
  have hcount : (Progress.begin ⟨s, [], inp.offset⟩ event).effects.count (.fetch d) = 0 :=
    WindowState.count_fetch_firstEffects s event d
  rcases hmoves.untouched_or_requested d with hu | hr
  · exact .inl ⟨hu.gate, hu.count.trans hcount⟩
  · exact .inr ⟨hr.was_idle, hr.pending, by rw [Progress.finish, hr.count, hcount]⟩

/-- The newest page is asked for by a jump to it alone, and first of all; nothing but a failed
request is reported. -/
theorem step_effects (haccepts : s.accepts event = true) (h : step s event inp = .ok t) :
    ∃ es, t.effects = s.firstEffects event ++ es ∧
      ∀ e ∈ es, e.isLocal = true ∨ ∃ d, e = .fetch d := by
  obtain ⟨q, hmoves, rfl⟩ := step_moves haccepts h
  exact hmoves.effects

/-- A transition is steady but for what its event changes by itself. -/
theorem step_tornDown (haccepts : s.accepts event = true) (h : step s event inp = .ok t) :
    t.state.tornDown = (s.begun event).tornDown := by
  obtain ⟨q, hmoves, rfl⟩ := step_moves haccepts h
  exact hmoves.tornDown

/-- A teardown asks for nothing. -/
theorem step_teardown (haccepts : s.accepts .teardown = true) (h : step s .teardown inp = .ok t) :
    t = ⟨s.begun .teardown, []⟩ := by
  rw [step, if_pos haccepts] at h
  cases h
  rfl

/-- A window that is told of anything but its end is on screen afterwards, if it takes notice. -/
theorem step_scroll (haccepts : s.accepts event = true) (hevent : event ≠ .teardown)
    (h : step s event inp = .ok t) : t.state.scroll ≠ .initializing := by
  by_cases hmount : event = .mount
  · subst hmount
    rw [step, if_pos haccepts] at h
    obtain ⟨q, hq, rfl⟩ := Checked.map_eq_ok.1 h
    exact Progress.mount_scroll hq
  · have hscroll : s.scroll ≠ .initializing := by
      rcases (WindowState.accepts_iff.1 haccepts).2 with hscroll | hconcerns
      · exact hscroll
      · cases event with
        | mount => exact absurd rfl hmount
        | teardown => exact absurd rfl hevent
        | _ => cases hconcerns
    obtain ⟨q, hmoves, rfl⟩ := step_moves haccepts h
    exact hmoves.scroll ((s.begun_scroll event).symm ▸ hscroll)

end Scrollback
