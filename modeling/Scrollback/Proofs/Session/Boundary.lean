import Scrollback.Proofs.Session.Counting
/-!
# What the unread boundary marks

The boundary is looked for by rank: among so many of the newest loaded messages as are unread. That
is right if the newest loaded message is the newest of all, and if nothing but unread messages is
among them. It is looked for whenever the count grows, and kept from then on.

## Main definitions

* `Session.lookedAt` — the session as it was when the boundary was last looked for.

## Main statements

* `Session.move_known` — a boundary that is new was found among the loaded messages.
* `Session.boundary_oldest` — what the boundary marks, and when it marks the oldest unread message.
-/

namespace Scrollback

namespace Graph

variable {g r : Graph} {is : List MessageIndex} {i : MessageIndex}

theorem OldestPost.congr (hi : g.OldestPost is i) (hposts : ∀ j ∈ is, r.isPost j = g.isPost j) :
    r.OldestPost is i where
  mem := hi.mem
  isPost := (hposts i hi.mem).trans hi.isPost
  le := by
    intro j hj hpost
    rw [hposts j hj] at hpost
    exact hi.le j hj hpost

theorem mem_keys_of_mem_newest {n : Nat} (hi : i ∈ g.newest n) : i ∈ g.keys :=
  List.mem_of_mem_drop hi

end Graph

namespace Session

variable {s s' x y a b : Session} {m : Move} {e : Event} {es more : List Event}
  {h : List (Session × Move)} {i : MessageIndex} {old : MessageIndex → Nat → Prop}

/-! ## What a move does to the boundary -/

/-- The boundary shown, if there is one, is known from before or is found among the loaded messages
now. -/
def Known (old : MessageIndex → Nat → Prop) (s : Session) : Prop :=
  ∀ i, s.window.boundary? = some i →
    old i s.unread ∨ s.graph.unreadBoundary? s.unread = some i

theorem Known.imp {new : MessageIndex → Nat → Prop} (hs : Known old s)
    (hold : ∀ i n, old i n → new i n) : Known new s :=
  fun i hi => (hs i hi).imp_left (hold i _)

/-- One event keeps the boundary and the count that goes with it, hides it, or finds it. -/
theorem handle_boundary (hh : x.handle e = .ok (y, more)) (hi : y.window.boundary? = some i) :
    y.unread = x.unread ∧ (x.window.boundary? = some i ∨
      y.feed = x.feed ∧ x.graph.unreadBoundary? x.unread = some i) := by
  obtain ⟨t, ht, hwindow, hunread, -⟩ := handle_transition hh
  rw [Window.boundary?, hwindow] at hi
  have hi : t.state.visibleUnread = some i := hi
  have hmem : .dismissUnread ∉ t.effects := by
    intro hmem
    rw [(step_dismisses ht hmem).1] at hi
    cases hi
  rw [if_neg hmem] at hunread
  refine ⟨hunread, ?_⟩
  rcases step_visible ht with hsame | hhidden | ⟨hseeks, hfound⟩
  · left
    rw [Window.boundary?, ← hsame, hi]
  · rw [hhidden] at hi
    cases hi
  · right
    constructor
    · rw [handle_feed hh, feed_begun_of_ne]
      rintro rfl
      cases hseeks
    · rw [← hi, hfound]
      rfl

/-- An event other than a jump keeps what is known of the boundary. -/
theorem Known.handle (hx : Known old x) (he : e ≠ .jumpToLatest)
    (hh : x.handle e = .ok (y, more)) : Known old y := by
  intro i hi
  have hgraph : y.graph = x.graph := by
    rw [graph, graph, handle_feed hh, feed_begun_of_ne he]
  obtain ⟨hunread, hbefore⟩ := handle_boundary hh hi
  rw [hgraph, hunread]
  rcases hbefore with hsame | ⟨-, hfound⟩
  · exact hx i hsame
  · exact .inr hfound

/-- What is known of the boundary after the first event of a dispatch is known after all of it. -/
theorem dispatch_known (hfirst : ∀ y more, a.handle e = .ok (y, more) → Known old y)
    (hb : a.dispatch e = .ok b) : Known old b := by
  refine dispatch_tail (Q := (· ≠ .jumpToLatest)) ?_ ?_ hb
  · intro y more hh
    exact ⟨ne_jumpToLatest_of_handle hh, hfirst y more hh⟩
  · intro e' x y more he hh hx
    exact ⟨ne_jumpToLatest_of_handle hh, hx.handle he hh⟩

theorem Known.tell (ha : Known old a) (hjump : .jumpToLatest ∉ es) (hb : a.tell es = .ok b) :
    Known old b := by
  induction es generalizing a with
  | nil =>
    cases hb
    exact ha
  | cons e es ih =>
    obtain ⟨he, hes⟩ := not_or.1 (mt List.mem_cons.2 hjump)
    rw [tell_cons] at hb
    obtain ⟨c, hc, hb⟩ := Checked.bind_eq_ok.1 hb
    exact ih (dispatch_known (fun y more hh => ha.handle (Ne.symm he) hh) hc) hes hb

/-- A window that is on screen and is told of an update after the count has grown looks for the
boundary. -/
theorem handle_known_of_grown (hm : x.window.state.isMounted = true)
    (hgrown : x.window.state.prevUnread < x.unread) (hh : x.handle .update = .ok (y, more)) :
    Known (fun _ _ => False) y := by
  intro i hi
  right
  have hgraph : y.graph = x.graph := by
    rw [graph, graph, handle_feed hh, feed_begun_of_ne Event.noConfusion]
  obtain ⟨hunread, -⟩ := handle_boundary hh hi
  obtain ⟨t, ht, hwindow, -⟩ := handle_transition hh
  rw [Window.boundary?, hwindow] at hi
  have hi : t.state.visibleUnread = some i := hi
  rw [hgraph, hunread]
  rcases step_visible_of_grown (WindowState.accepts_of_isMounted hm _) hgrown ht with
    hhidden | hfound
  · rw [hhidden] at hi
    cases hi
  · rw [← hi, hfound]
    rfl

/-- Only mounting brings a window on screen. -/
theorem isMounted_of_dispatch (he : e ≠ .mount) (hb : a.dispatch e = .ok b)
    (hm : b.window.state.isMounted = true) : a.window.state.isMounted = true := by
  have hlast : .mount ∉ ([] : List Event) ∧
      (b.window.state.isMounted = true → a.window.state.isMounted = true) := by
    refine dispatch_induction (P := fun queue x => .mount ∉ queue ∧
      (x.window.state.isMounted = true → a.window.state.isMounted = true)) ?_ ?_ hb
    · rintro e' rest x y more hh ⟨hqueue, hx⟩
      obtain ⟨he', hrest⟩ := not_or.1 (mt List.mem_cons.2 hqueue)
      constructor
      · rw [List.mem_append, not_or]
        refine ⟨hrest, fun hmore => ?_⟩
        rcases (handle_load hh).2 _ hmore with heq | heq <;> cases heq
      · intro hy
        exact hx (isMounted_of_handle hh (fun heq => absurd heq.symm he') hy)
    · exact ⟨by simpa using Ne.symm he, id⟩
  exact hlast.2 hm

/-- A window that shows a boundary was on screen before, if it is now. -/
theorem isMounted_of_boundary (hrun : Run h s) (hm : s.move m = some s')
    (hi : s.window.boundary? = some i) (hmounted : s'.window.state.isMounted = true) :
    s.window.state.isMounted = true := by
  refine WindowState.isMounted_iff.2 ⟨?_, ?_⟩
  · exact (move_turn hm).tornDown (WindowState.isMounted_iff.1 hmounted).1
  · intro hscroll
    have hnone := hrun.tracks.unmounted hscroll
    rw [Window.boundary?, WindowState.visibleUnread, hnone] at hi
    simp at hi

/-- **What a move does to the boundary.** A boundary that is shown after a move was shown before,
for the same number of unread messages, or it is found among the loaded messages now. -/
theorem move_known (hs : Tracks [] s) (hm : s.move m = some s')
    (hmounted : s'.window.state.isMounted = true) :
    Known (fun i n => s.window.boundary? = some i ∧ n = s.unread) s' := by
  obtain ⟨a, es, b, htold, htell, rfl⟩ := exists_told hm
  obtain ⟨tasks, started, heq⟩ := b.exists_settleMove_eq m
  have hstate := told_state htold
  rw [heq] at hmounted ⊢
  suffices hb : Known (fun i n => s.window.boundary? = some i ∧ n = s.unread) b from hb
  rcases jumps_cases htold with ⟨-, rfl, rfl⟩ | ⟨-, hjump⟩
  · rw [tell_singleton] at htell
    refine dispatch_known (fun y more hh i hi => ?_) htell
    obtain ⟨hunread, hbefore⟩ := handle_boundary hh hi
    rcases hbefore with hsame | ⟨hfeed, hfound⟩
    · exact .inl ⟨hsame, hunread⟩
    · right
      rwa [graph, hfeed, hunread]
  · have hboundary : a.window.boundary? = s.window.boundary? := by
      rw [Window.boundary?, Window.boundary?, hstate]
    have hsame (hunread : a.unread = s.unread) :
        Known (fun i n => s.window.boundary? = some i ∧ n = s.unread) a :=
      fun i hi => .inl ⟨hboundary ▸ hi, hunread⟩
    cases told_change htold with
    | nothing _ _ _ _ hunread => exact (hsame hunread).tell hjump htell
    | answers _ _ _ _ hunread => exact (hsame hunread).tell hjump htell
    | acknowledges _ _ _ _ hunread => exact (hsame hunread).tell hjump htell
    | announces _ _ _ _ _ hunread => exact (hsame hunread).tell hjump htell
    | adds _ _ _ _ _ _ _ _ _ _ _ hunread => exact (hsame hunread).tell hjump htell
    | hears i _ _ _ hunread =>
      -- a window on screen knows the count from before, which is less by one
      rw [tell_singleton] at htell
      have ha := isMounted_of_dispatch Event.noConfusion htell hmounted
      have hseen := (hs.unread (hstate ▸ ha)).resolve_right List.not_mem_nil
      have hgrown : a.window.state.prevUnread < a.unread := by
        rw [hstate, hseen, hunread]
        exact Nat.lt_succ_self _
      have hfound : Known (fun _ _ => False) b :=
        dispatch_known (fun y more hh => handle_known_of_grown ha hgrown hh) htell
      exact hfound.imp fun _ _ hnot => hnot.elim

/-! ## The last look -/

/-- The session as it was when the boundary that it shows was last looked for: the boundary and the
count have not changed since. -/
def lookedAt : List (Session × Move) → Session → List (Session × Move) × Session
  | [], s => ([], s)
  | (p, m) :: h, s =>
    if p.window.boundary? = s.window.boundary? ∧ p.unread = s.unread then lookedAt h p
    else ((p, m) :: h, s)

/-- What is known of the last look. -/
structure Looked (h : List (Session × Move)) (s : Session) (h' : List (Session × Move))
    (s' : Session) (i : MessageIndex) : Prop where
  run : Run h' s'
  unread : s'.unread = s.unread
  boundary : s'.graph.unreadBoundary? s.unread = some i
  waiting : s'.waiting = []
  counted : counted h' s' = counted h s
  unannounced : ∀ i ∈ unannounced h', i ∈ unannounced h
  feed : s'.feed.Continues s.feed

variable {look : Session} {h' : List (Session × Move)}

/-- A boundary that is found now. -/
theorem looked_now (hrun : Run h s) (hfound : s.graph.unreadBoundary? s.unread = some i)
    (hwaiting : s.waiting = []) : Looked h s h s i where
  run := hrun
  unread := rfl
  boundary := hfound
  waiting := hwaiting
  counted := rfl
  unannounced := fun _ hj => hj
  feed := (Feed.Grows.refl _).toContinues

/-- A move that leaves the number of unread messages has heard no news of any. -/
theorem heard_eq_nil_of_unread_eq (hm : s.move m = some s') (hunread : s.unread = s'.unread)
    (hpos : s'.unread ≠ 0) (hwaiting : s'.waiting = []) : s.heard m = [] ∧ s.waiting = [] := by
  cases move_delivers hm with
  | nothing _ hheard hwait _ => exact ⟨hheard, hwait ▸ hwaiting⟩
  | announces j _ _ _ hwait _ =>
    rw [hwaiting] at hwait
    simp at hwait
  | adds j _ _ hheard hwait _ => exact ⟨hheard, hwait ▸ hwaiting⟩
  | hears j _ _ _ hmore =>
    have := hmore.resolve_left hpos
    omega

/-- A boundary that is kept by a move, for the same number of unread messages. -/
theorem looked_move (hlook : Looked h s h' look i) (hm : s.move m = some s')
    (hunread : s.unread = s'.unread) (hpos : s'.unread ≠ 0) (hheard : s.heard m = []) :
    Looked ((s, m) :: h) s' h' look i where
  run := hlook.run
  unread := hlook.unread.trans hunread
  boundary := hunread ▸ hlook.boundary
  waiting := hlook.waiting
  counted := by rw [hlook.counted, Session.counted, if_neg hpos, hheard, List.append_nil]
  unannounced := fun j hj => List.mem_append_left _ (hlook.unannounced j hj)
  feed := hlook.feed.trans (move_turn hm).continues

/-- No news was heard since the last look. -/
theorem Run.looked (hrun : Run h s) (hm : s.window.state.isMounted = true)
    (hi : s.window.boundary? = some i) (hwaiting : s.waiting = []) :
    Looked h s (lookedAt h s).1 (lookedAt h s).2 i := by
  induction hrun with
  | opened ho =>
    rw [Window.boundary?, ho.state] at hi
    cases hi
  | @move h p s m hrun hmove ih =>
    have hpos : s.unread ≠ 0 := by
      intro hzero
      rw [(hrun.move hmove).tracks.visible hzero] at hi
      cases hi
    rw [lookedAt]
    split
    · next hsame =>
      obtain ⟨hboundary, hunread⟩ := hsame
      have hp : p.window.boundary? = some i := hboundary.trans hi
      obtain ⟨hheard, hnone⟩ := heard_eq_nil_of_unread_eq hmove hunread hpos hwaiting
      have hlook := ih (isMounted_of_boundary hrun hmove hp hm) hp hnone
      exact looked_move hlook hmove hunread hpos hheard
    · next hnew =>
      refine looked_now (hrun.move hmove) ?_ hwaiting
      rcases move_known hrun.tracks hmove hm i hi with ⟨hold, hunread⟩ | hfound
      · exact absurd ⟨hold.trans hi.symm, hunread.symm⟩ hnew
      · exact hfound

/-- The boundary is the oldest post among the newest messages that were loaded at the last look. -/
theorem oldest_newest_of_looked (hlook : Looked h s h' look i) :
    s.feed.remote.OldestPost (look.graph.newest s.unread) i := by
  refine (Graph.oldest_of_unreadBoundary? hlook.boundary).congr fun j hj => ?_
  obtain ⟨hj, hpost⟩ :=
    Feed.isPost_of_loaded hlook.run.tracks.exists_spans (Graph.mem_keys_of_mem_newest hj)
  rw [hlook.feed.posts j hj, hpost]
  rfl

/-- The newest messages of the last look are those that are unread still. -/
theorem newest_eq_counted_of_looked (hlook : Looked h s h' look i)
    (hnone : ∀ j ∈ look.feed.remote.newest s.unread, j ∉ unannounced h) :
    look.feed.remote.newest s.unread = counted h s := by
  rw [← hlook.unread, ← hlook.counted]
  refine hlook.run.newest_eq_counted hlook.waiting fun j hj hsilent => ?_
  rw [hlook.unread] at hj
  exact hnone j hj (hlook.unannounced j hsilent)

/-- At the end of the history the boundary is the oldest post among the unread messages. -/
theorem oldest_counted_of_looked (hlook : Looked h s h' look i) (hend : look.feed.ReachesEnd)
    (hnone : ∀ j ∈ look.feed.remote.newest s.unread, j ∉ unannounced h) :
    s.feed.remote.OldestPost (counted h s) i := by
  have hn := (Graph.unreadBoundary?_eq_some_iff.1 hlook.boundary).2.1
  have hremote := hend.unreadBoundary? hlook.run.tracks.exists_spans hn
  have holdest := Graph.oldest_of_unreadBoundary? (hremote.symm.trans hlook.boundary)
  have hcounted := newest_eq_counted_of_looked hlook hnone
  rw [hcounted] at holdest
  refine holdest.congr fun j hj => hlook.feed.posts j ?_
  rw [← hcounted] at hj
  exact Graph.mem_keys_of_mem_newest hj

/-- **What the unread boundary marks.** In every run, when no news waits, a boundary that is shown
is the oldest post among so many of the newest loaded messages as are unread, as they were when it
was last looked for. If the loaded part reached the end of the history then, and if none of the
newest messages had come in without news, as what the reader sends does, then the boundary is the
oldest post among the unread messages. -/
theorem boundary_oldest (hrun : Run h s) (hm : s.window.state.isMounted = true)
    (hnews : s.news = []) (hi : s.window.boundary? = some i) :
    s.feed.remote.OldestPost ((lookedAt h s).2.graph.newest s.unread) i ∧
      ((lookedAt h s).2.feed.ReachesEnd →
        (∀ j ∈ (lookedAt h s).2.feed.remote.newest s.unread, j ∉ unannounced h) →
          s.feed.remote.OldestPost (counted h s) i) := by
  have hwaiting : s.waiting = [] := by rw [waiting, hnews]; rfl
  have hlook := hrun.looked hm hi hwaiting
  exact ⟨oldest_newest_of_looked hlook, oldest_counted_of_looked hlook⟩

/-- Two messages that come in while nobody looks are unread, and the boundary marks the older. -/
theorem boundary_oldest_unfocused : ∃ h s i, Run h s ∧ s.window.state.isMounted = true ∧
    s.news = [] ∧ s.window.boundary? = some i ∧ s.unread = 2 ∧
      s.feed.remote.OldestPost (counted h s) i := by
  obtain ⟨h, s, hrun, hs⟩ := exists_run_of_trial { messages := 5, incomingEvery := some 1000 }
    [.mount 10, .input .focusLost, .perform 0, .perform 0, .hearNews, .hearNews]
    (fun h s => decide (s.window.state.isMounted = true ∧ s.news = [] ∧
      s.window.boundary?.isSome = true ∧ s.unread = 2 ∧ (lookedAt h s).2.feed.ReachesEnd ∧
      ∀ j ∈ (lookedAt h s).2.feed.remote.newest s.unread, j ∉ unannounced h))
    (by decide +kernel)
  obtain ⟨hm, hnews, hsome, hunread, hend, hnone⟩ := of_decide_eq_true hs
  obtain ⟨i, hi⟩ := Option.isSome_iff_exists.1 hsome
  exact ⟨h, s, i, hrun, hm, hnews, hi, hunread,
    (boundary_oldest hrun hm hnews hi).2 hend hnone⟩

/-- On a page around an old message the boundary marks a message that was read, where nothing came
in without news; and at the end of the history it marks the reader's own message, where that was
sent between two of others. -/
theorem exists_boundary_not_counted :
    (∃ h s, Run h s ∧ s.window.state.isMounted = true ∧ s.results = [] ∧ s.news = [] ∧
      unannounced h = [] ∧ ∃ i ∈ s.window.boundary?, i ∉ counted h s) ∧
    (∃ h s, Run h s ∧ s.window.state.isMounted = true ∧ s.results = [] ∧ s.news = [] ∧
      s.feed.ReachesEnd ∧ ∃ i ∈ s.window.boundary?, i ∉ counted h s) := by
  constructor
  · obtain ⟨h, s, hrun, hs⟩ := exists_run_of_trial
      { messages := 9, pageSize := 2, scrollTo := some .first, unread := 1 } [.mount 10]
      (fun h s => decide (s.window.state.isMounted = true ∧ s.results = [] ∧ s.news = [] ∧
        unannounced h = [] ∧ ∃ i ∈ s.window.boundary?, i ∉ counted h s))
      (by decide +kernel)
    exact ⟨h, s, hrun, of_decide_eq_true hs⟩
  · obtain ⟨h, s, hrun, hs⟩ := exists_run_of_trial { messages := 5, incomingEvery := some 1000 }
      [.mount 10, .input .focusLost, .perform 0, .hearNews, .input (.key (.char 's') false),
        .perform 1, .hearNews]
      (fun h s => decide (s.window.state.isMounted = true ∧ s.results = [] ∧ s.news = [] ∧
        s.feed.ReachesEnd ∧ ∃ i ∈ s.window.boundary?, i ∉ counted h s))
      (by decide +kernel)
    exact ⟨h, s, hrun, of_decide_eq_true hs⟩

end Session

end Scrollback
