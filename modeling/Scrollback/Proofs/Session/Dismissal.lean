import Scrollback.Proofs.Session.CatchUp
import Scrollback.Proofs.Window.Episode
/-!
# What is marked as read

A window asks to mark the unread messages as read when its reader is near the newest loaded message.
The newest loaded message need not be the newest of all. It is so from the start, or from the first
time on that the loaded part was brought to the end of the history.

## Main definitions

* `Session.carriedOut` — the commands that are carried out in the course of a move.

## Main statements

* `Session.exists_dismissal` — messages are marked as read by such a command only.
* `Session.dismissed_reachesEnd` — what is marked as read, and when all of it could be seen.
-/

namespace Scrollback.Session

variable {s s' x y a b : Session} {m : Move} {c : Command} {e : Event} {es queue : List Event}
  {h : List (Session × Move)}

/-! ## The commands that are carried out -/

/-- The commands of one event that are carried out, each with the session that it is carried out
on. -/
def carriedAll (s : Session) (replaced : Bool) : List Command → List (Session × Command)
  | [] => []
  | c :: rest =>
    if replaced && c.isFetch then s.carriedAll replaced rest
    else
      let (s', followUp) := s.execute c
      (s, c) :: s'.carriedAll (replaced || followUp == some .reset) rest

/-- The commands that one event comes to. -/
def carriedBy (s : Session) (e : Event) : List (Session × Command) :=
  match step s.window.state e (s.window.inputs s.graph s.unread s.now) with
  | .ok t => (s.moved t).carriedAll false (t.effects.filterMap Effect.command?)
  | .error _ => []

/-- The commands that queued events and what follows from them come to, `fuel` events at most. -/
def carriedWithin : Nat → List Event → Session → List (Session × Command)
  | 0, _, _ => []
  | _, [], _ => []
  | fuel + 1, e :: rest, s =>
    s.carriedBy e ++
      match s.handle e with
      | .ok (s', more) => carriedWithin fuel (rest ++ more) s'
      | .error _ => []

/-- The commands that are carried out while the window is told of events. -/
def carriedTelling (s : Session) : List Event → List (Session × Command)
  | [] => []
  | e :: es =>
    carriedWithin wake [e] s ++
      match s.dispatch e with
      | .ok s' => s'.carriedTelling es
      | .error _ => []

/-- The commands that are carried out in the course of a move, each with the session that it is
carried out on. -/
def carriedOut (s : Session) (m : Move) : List (Session × Command) :=
  match s.told m with
  | some (a, es) => a.carriedTelling es
  | none => []

theorem carriedAll_cons (s : Session) (replaced : Bool) (c : Command) (rest : List Command)
    (h : (replaced && c.isFetch) = false) :
    s.carriedAll replaced (c :: rest) =
      (s, c) :: (s.execute c).1.carriedAll (replaced || (s.execute c).2 == some .reset) rest := by
  rw [carriedAll, h]
  rfl

/-- Which commands are carried out does not depend on the session, where none is a jump. -/
theorem map_snd_carriedAll (replaced : Bool) (hjump : .getMostRecent ∉ cs) :
    (s.carriedAll replaced cs).map Prod.snd = cs.filter fun c => !(replaced && c.isFetch) := by
  induction cs generalizing s with
  | nil => rfl
  | cons c rest ih =>
    obtain ⟨hc, hrest⟩ := not_or.1 (mt List.mem_cons.2 hjump)
    by_cases hdrop : (replaced && c.isFetch) = true
    · rw [carriedAll, if_pos hdrop, ih hrest, List.filter_cons_of_neg (by simp [hdrop])]
    · rw [Bool.not_eq_true] at hdrop
      have hne := execute_followUp_ne_reset (s := s) (Ne.symm hc)
      have hflag : (replaced || (s.execute c).2 == some .reset) = replaced := by
        rw [beq_eq_false_iff_ne.2 hne, Bool.or_false]
      rw [carriedAll_cons _ _ _ _ hdrop, hflag, List.filter_cons_of_pos (by simp [hdrop]),
        List.map_cons, ih hrest]

/-! ## What has all messages read

No message is marked as read but by a command that is carried out. -/

theorem exists_dismissal_of_executeAll {replaced : Bool} {cs : List Command}
    (hpos : s.unread ≠ 0) (hzero : (s.executeAll replaced cs).1.unread = 0) :
    ∃ x, (x, .dismissUnread) ∈ s.carriedAll replaced cs ∧ x.unread ≠ 0 := by
  induction cs generalizing s replaced with
  | nil => exact absurd hzero hpos
  | cons c rest ih =>
    by_cases hdrop : (replaced && c.isFetch) = true
    · rw [executeAll, if_pos hdrop] at hzero
      rw [carriedAll, if_pos hdrop]
      exact ih hpos hzero
    · rw [Bool.not_eq_true] at hdrop
      rw [executeAll_cons _ _ _ _ hdrop] at hzero
      rw [carriedAll_cons _ _ _ _ hdrop]
      by_cases hc : c = .dismissUnread
      · exact ⟨s, by rw [hc]; exact List.mem_cons_self .., hpos⟩
      · have hstill : (s.execute c).1.unread ≠ 0 := by
          rw [execute_unread, if_neg hc]
          exact hpos
        obtain ⟨x, hx, hunread⟩ := ih hstill hzero
        exact ⟨x, List.mem_cons_of_mem _ hx, hunread⟩

theorem exists_dismissal_of_handle {more : List Event} (hpos : s.unread ≠ 0)
    (hh : s.handle e = .ok (s', more)) (hzero : s'.unread = 0) :
    ∃ x, (x, .dismissUnread) ∈ s.carriedBy e ∧ x.unread ≠ 0 := by
  obtain ⟨t, ht, hexec⟩ := handle_eq_ok.1 hh
  simp only [carriedBy, ht]
  refine exists_dismissal_of_executeAll (s := s.moved t) hpos ?_
  rw [hexec]
  exact hzero

theorem exists_dismissal_of_handleAll {fuel : Nat} (hpos : s.unread ≠ 0)
    (hs : handleAll fuel queue s = .ok s') (hzero : s'.unread = 0) :
    ∃ x, (x, .dismissUnread) ∈ carriedWithin fuel queue s ∧ x.unread ≠ 0 := by
  induction fuel generalizing queue s with
  | zero =>
    cases hs
    exact absurd hzero hpos
  | succ fuel ih =>
    cases queue with
    | nil =>
      cases hs
      exact absurd hzero hpos
    | cons e rest =>
      rw [handleAll_succ] at hs
      obtain ⟨⟨y, more⟩, hh, hs⟩ := Checked.bind_eq_ok.1 hs
      simp only [carriedWithin, hh]
      by_cases hy : y.unread = 0
      · obtain ⟨x, hx, hunread⟩ := exists_dismissal_of_handle hpos hh hy
        exact ⟨x, List.mem_append_left _ hx, hunread⟩
      · obtain ⟨x, hx, hunread⟩ := ih hy hs
        exact ⟨x, List.mem_append_right _ hx, hunread⟩

theorem exists_dismissal_of_tell (hpos : a.unread ≠ 0) (hb : a.tell es = .ok b)
    (hzero : b.unread = 0) : ∃ x, (x, .dismissUnread) ∈ a.carriedTelling es ∧ x.unread ≠ 0 := by
  induction es generalizing a with
  | nil =>
    cases hb
    exact absurd hzero hpos
  | cons e es ih =>
    rw [tell_cons] at hb
    obtain ⟨y, hdispatch, hb⟩ := Checked.bind_eq_ok.1 hb
    simp only [carriedTelling, hdispatch]
    by_cases hy : y.unread = 0
    · obtain ⟨x, hx, hunread⟩ := exists_dismissal_of_handleAll hpos hdispatch hy
      exact ⟨x, List.mem_append_left _ hx, hunread⟩
    · obtain ⟨x, hx, hunread⟩ := ih hy hb
      exact ⟨x, List.mem_append_right _ hx, hunread⟩

/-- **Whatever is read after a move was marked as read by a command of that move.** -/
theorem exists_dismissal (htold : s.told m = some (a, es)) (hpos : a.unread ≠ 0)
    (hm : s.move m = some s') (hzero : s'.unread = 0) :
    ∃ x, (x, .dismissUnread) ∈ s.carriedOut m ∧ x.unread ≠ 0 := by
  obtain ⟨a, es, b, htold', htell, rfl⟩ := exists_told hm
  rw [htold] at htold'
  cases htold'
  obtain ⟨tasks, started, heq⟩ := b.exists_settleMove_eq m
  rw [heq] at hzero
  simp only [carriedOut, htold]
  exact exists_dismissal_of_tell hpos htell hzero

/-! ## Under which circumstances -/

/-- Commands other than a jump leave feed and window as they find them. -/
theorem frame_of_mem_carriedAll {replaced : Bool} {cs : List Command}
    (hjump : .getMostRecent ∉ cs) (hx : (x, c) ∈ s.carriedAll replaced cs) :
    c ∈ cs ∧ x.feed = s.feed ∧ x.window = s.window := by
  induction cs generalizing s replaced with
  | nil => cases hx
  | cons d rest ih =>
    obtain ⟨hd, hrest⟩ := not_or.1 (mt List.mem_cons.2 hjump)
    have hcarries := execute_carries (s := s) (Ne.symm hd)
    rw [carriedAll] at hx
    split at hx
    · obtain ⟨hc, hframe⟩ := ih hrest hx
      exact ⟨List.mem_cons_of_mem d hc, hframe⟩
    · rcases List.mem_cons.1 hx with heq | hx
      · cases heq
        exact ⟨List.mem_cons_self .., rfl, rfl⟩
      · obtain ⟨hc, hfeed, hwindow⟩ := ih hrest hx
        exact ⟨List.mem_cons_of_mem d hc, hfeed.trans hcarries.feed,
          hwindow.trans hcarries.window⟩

/-- Messages are marked as read by a window that is looked at, and after a jump to the newest one
was carried out. -/
theorem dismissal_of_mem_carriedBy (hx : (x, .dismissUnread) ∈ s.carriedBy e) :
    x.feed = (s.begun e).feed ∧ x.window.focused = true := by
  rw [carriedBy] at hx
  split at hx
  case h_2 => cases hx
  case h_1 t ht =>
    cases haccepts : s.window.state.accepts e with
    | false =>
      rw [step_of_not_accepts haccepts ht] at hx
      cases hx
    | true =>
      have hreader : (.dismissUnread : Effect) ∈ t.effects → s.window.focused = true := by
        intro hmem
        exact (step_dismisses ht hmem).2.1
      by_cases hjump : e = .jumpToLatest
      · subst hjump
        obtain ⟨cs, hcommands, hrest, -⟩ := exists_jump_commands haccepts ht
        rw [hcommands, carriedAll_cons _ _ _ _ rfl] at hx
        rcases List.mem_cons.1 hx with heq | hx
        · cases heq
        · obtain ⟨hmem, hfeed, hwindow⟩ := frame_of_mem_carriedAll hrest hx
          have heffect : Effect.dismissUnread ∈ t.effects := by
            rw [← dismissUnread_mem_commands, hcommands]
            exact List.mem_cons_of_mem _ hmem
          rw [execute_window] at hwindow
          rw [feed_begun haccepts, if_pos rfl, hfeed, hwindow]
          exact ⟨execute_getMostRecent_feed _, hreader heffect⟩
      · have hnot : Command.getMostRecent ∉ t.effects.filterMap Effect.command? :=
          getMostRecent_not_mem_commands hjump haccepts ht
        obtain ⟨hmem, hfeed, hwindow⟩ := frame_of_mem_carriedAll hnot hx
        rw [feed_begun_of_ne hjump, hfeed, hwindow]
        exact ⟨rfl, hreader (dismissUnread_mem_commands.1 hmem)⟩

/-- Each command that is carried out comes from an event, and what all events keep true of the queue
and the session was true when it was handled. -/
theorem exists_of_mem_carriedWithin {P : List Event → Session → Prop}
    (step : ∀ {e rest x y more}, x.handle e = .ok (y, more) → P (e :: rest) x → P (rest ++ more) y)
    {fuel : Nat} (start : P queue s) (hx : (x, c) ∈ carriedWithin fuel queue s) :
    ∃ e rest y, P (e :: rest) y ∧ (x, c) ∈ y.carriedBy e := by
  induction fuel generalizing queue s with
  | zero => cases hx
  | succ fuel ih =>
    cases queue with
    | nil => cases hx
    | cons e rest =>
      rw [carriedWithin] at hx
      rcases List.mem_append.1 hx with hx | hx
      · exact ⟨e, rest, s, start, hx⟩
      · split at hx
        · next y more hhandle => exact ih (step hhandle start) hx
        · cases hx

/-- The feed on which messages are marked as read is the one that the dispatch leaves. -/
theorem dismissal_of_mem_carriedWithin {fuel : Nat}
    (hx : (x, .dismissUnread) ∈ carriedWithin fuel [e] s) :
    x.feed = (s.begun e).feed ∧ x.window.focused = true := by
  obtain ⟨e', rest, y, hy, hx⟩ := exists_of_mem_carriedWithin
    (P := fun queue y => queue = [e] ∧ y = s ∨ .jumpToLatest ∉ queue ∧ y.feed = (s.begun e).feed)
    (fun {e' rest y z more} hh hy => by
      have hmore := jumpToLatest_not_mem_of_handle hh
      right
      rcases hy with ⟨heq, rfl⟩ | ⟨hqueue, hfeed⟩
      · cases heq
        exact ⟨hmore, handle_feed hh⟩
      · obtain ⟨he, hrest⟩ := not_or.1 (mt List.mem_cons.2 hqueue)
        refine ⟨?_, ?_⟩
        · rw [List.mem_append, not_or]
          exact ⟨hrest, hmore⟩
        · rw [handle_feed hh, feed_begun_of_ne (Ne.symm he), hfeed])
    (.inl ⟨rfl, rfl⟩) hx
  obtain ⟨hfeed, hfocused⟩ := dismissal_of_mem_carriedBy hx
  refine ⟨?_, hfocused⟩
  rcases hy with ⟨heq, rfl⟩ | ⟨hqueue, hy⟩
  · cases heq
    exact hfeed
  · rw [hfeed, feed_begun_of_ne (Ne.symm (not_or.1 (mt List.mem_cons.2 hqueue)).1), hy]

theorem dismissal_of_mem_carriedTelling (hjump : .jumpToLatest ∉ es)
    (hx : (x, .dismissUnread) ∈ a.carriedTelling es) :
    x.feed = a.feed ∧ x.window.focused = true := by
  induction es generalizing a with
  | nil => cases hx
  | cons e es ih =>
    obtain ⟨he, hes⟩ := not_or.1 (mt List.mem_cons.2 hjump)
    have hfeed : (a.begun e).feed = a.feed := feed_begun_of_ne (Ne.symm he)
    rw [carriedTelling] at hx
    rcases List.mem_append.1 hx with hx | hx
    · rw [← hfeed]
      exact dismissal_of_mem_carriedWithin hx
    · split at hx
      · next y hdispatch =>
        rw [← hfeed, ← (dispatch_asks hdispatch).feed]
        exact ih hes hx
      · cases hx

/-- The feed on which messages are marked as read is the one that the move leaves. -/
theorem dismissal_of_mem_carriedOut (hm : s.move m = some s')
    (hx : (x, .dismissUnread) ∈ s.carriedOut m) :
    x.feed = s'.feed ∧ x.window.focused = true := by
  obtain ⟨a, es, b, htold, htell, rfl⟩ := exists_told hm
  obtain ⟨tasks, started, heq⟩ := b.exists_settleMove_eq m
  rw [carriedOut, htold] at hx
  rw [heq]
  rcases jumps_cases htold with ⟨-, rfl, rfl⟩ | ⟨-, hjump⟩
  · rw [tell_singleton] at htell
    simp only [carriedTelling, htell, List.append_nil] at hx
    rw [(dispatch_asks htell).feed]
    exact dismissal_of_mem_carriedWithin hx
  · rw [tell_feed hjump htell]
    exact dismissal_of_mem_carriedTelling hjump hx

/-! ## Runs -/

/-- **What is marked as read.** Whenever unread messages are marked as read in a run, the window is
looked at; and the newest loaded message is the newest of all exactly if it was so when the session
was opened, or if the loaded part was brought to the end of the history since. -/
theorem dismissed_reachesEnd (hrun : Run h s) (hm : s.move m = some s')
    (hx : (x, .dismissUnread) ∈ s.carriedOut m) :
    x.window.focused = true ∧
      (x.feed.loaded.largest? = x.feed.remote.largest? ↔
        (origin h s).feed.loaded.largest? = (origin h s).feed.remote.largest? ∨
          ∃ p ∈ (s, m) :: h, p.1.catchesUp p.2 = true) := by
  obtain ⟨hfeed, hfocused⟩ := dismissal_of_mem_carriedOut hm hx
  refine ⟨hfocused, ?_⟩
  rw [hfeed]
  exact (hrun.move hm).reachesEnd_iff

/-- The move comes to a dismissal of unread messages. -/
def dismisses (s : Session) (m : Move) : Bool :=
  (s.carriedOut m).any fun p => decide (p.2 = .dismissUnread ∧ 0 < p.1.unread)

theorem exists_of_dismisses (hd : s.dismisses m = true) :
    ∃ x, (x, .dismissUnread) ∈ s.carriedOut m ∧ 0 < x.unread := by
  obtain ⟨⟨x, c⟩, hx, hc⟩ := List.any_eq_true.1 hd
  obtain ⟨rfl, hpos⟩ := of_decide_eq_true hc
  exact ⟨x, hx, hpos⟩

/-- A reader who jumps to the newest message from a page around an old one has read everything. -/
theorem dismissed_reachesEnd_jump : ∃ h s s' x m, Run h s ∧ s.move m = some s' ∧
    (x, .dismissUnread) ∈ s.carriedOut m ∧ x.window.focused = true ∧
      (x.feed.loaded.largest? = x.feed.remote.largest? ↔
        (origin h s).feed.loaded.largest? = (origin h s).feed.remote.largest? ∨
          ∃ p ∈ (s, m) :: h, p.1.catchesUp p.2 = true) := by
  obtain ⟨h, s, hrun, hs⟩ := exists_run_of_trial
    { messages := 9, pageSize := 2, scrollTo := some .first, unread := 1 } [.mount 10]
    (fun _ s => (s.move (.input (.key .bottom false))).isSome &&
      s.dismisses (.input (.key .bottom false)))
    (by decide +kernel)
  obtain ⟨hmove, hdismisses⟩ := Bool.and_eq_true_iff.1 hs
  obtain ⟨s', hm⟩ := Option.isSome_iff_exists.1 hmove
  obtain ⟨x, hx, -⟩ := exists_of_dismisses hdismisses
  exact ⟨h, s, s', x, _, hrun, hm, hx, dismissed_reachesEnd hrun hm hx⟩

/-- A page around an old message that grows marks unread messages as read that are not loaded. -/
theorem exists_dismissed_early : ∃ h s s' x m, Run h s ∧ s.move m = some s' ∧
    (x, .dismissUnread) ∈ s.carriedOut m ∧ 0 < x.unread ∧ x.feed.remote.isEmpty = false ∧
      x.feed.loaded.largest? ≠ x.feed.remote.largest? := by
  obtain ⟨h, s, hrun, hs⟩ := exists_run_of_trial
    { messages := 9, pageSize := 2, scrollTo := some .first, unread := 1 } [.mount 10, .perform 0]
    (fun _ s => (s.move .hearResult).isSome && (s.carriedOut .hearResult).any fun p =>
      decide (p.2 = .dismissUnread ∧ 0 < p.1.unread ∧ p.1.feed.remote.isEmpty = false ∧
        p.1.feed.loaded.largest? ≠ p.1.feed.remote.largest?))
    (by decide +kernel)
  obtain ⟨hmove, hdismisses⟩ := Bool.and_eq_true_iff.1 hs
  obtain ⟨s', hm⟩ := Option.isSome_iff_exists.1 hmove
  obtain ⟨⟨x, c⟩, hx, hc⟩ := List.any_eq_true.1 hdismisses
  obtain ⟨rfl, hearly⟩ := of_decide_eq_true hc
  exact ⟨h, s, s', x, _, hrun, hm, hx, hearly⟩

end Scrollback.Session
