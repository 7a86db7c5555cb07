import Scrollback.Proofs.Session.Run
/-!
# The course of a move

A move changes the session by itself, then the window is told of it, and each event that it is told
of is dispatched. What the move changes by itself is of one of a few kinds: a message is added to
the history, with news of it or without, a page request is answered, a send is acknowledged, or
the news of a message is heard.

## Main definitions

* `Action`, `Input.action` — what the reader does with a key, the wheel or the focus.
* `Session.told` — the session before the window is told of a move, and what it is told.
* `Session.tell` — the window is told of events, one after the other.
* `Session.handledIn` — the events that are handled in the course of a move.
* `Session.waiting` — the messages of others of which news waits.
* `Session.Change` — what a move changes by itself.

## Main statements

* `Session.move_eq` — a move is its own change, and a dispatch of each event from there on.
* `Session.told_change` — the change is of one of the kinds.
* `Session.tell_trace` — what each event keeps true is true when all have been told.
-/

namespace Scrollback

/-- The message of somebody else that news tells of. -/
def FeedEvent.arrival? : FeedEvent → Option MessageIndex
  | .arrived i false => some i
  | _ => none

/-! ## What the reader does -/

/-- What the reader does with a key, the wheel or the focus. -/
inductive Action where
  | quit
  | scrollUp (step : Session → Nat)
  | scrollDown (step : Session → Nat)
  | jumpToLatest
  | jumpToUnread
  | retry
  | send
  | focus (focused : Bool)
  | nothing

/-- What a key does. -/
def Key.action : Key → Bool → Action
  | .char 'c', true => .quit
  | .char 'q', _ | .escape, _ => .quit
  | .up, true => .scrollUp fun _ => Session.fastStep
  | .down, true => .scrollDown fun _ => Session.fastStep
  | .up, _ | .char 'k', _ => .scrollUp fun _ => 1
  | .down, _ | .char 'j', _ => .scrollDown fun _ => 1
  | .pageUp, _ => .scrollUp Session.pageStep
  | .pageDown, _ => .scrollDown Session.pageStep
  | .bottom, _ | .char 'G', _ => .jumpToLatest
  | .char 'u', _ => .jumpToUnread
  | .char 'r', _ => .retry
  | .char 's', _ => .send
  | _, _ => .nothing

/-- What anything that a terminal reports does. -/
def Input.action : Input → Action
  | .key k control => k.action control
  | .wheelUp => .scrollUp fun _ => Session.wheelStep
  | .wheelDown => .scrollDown fun _ => Session.wheelStep
  | .focusGained => .focus true
  | .focusLost => .focus false
  | .other => .nothing

namespace Session

variable {s s' a b : Session} {m : Move} {e : Event} {es : List Event}

/-- The session after the reader did something. -/
def act (s : Session) : Action → Checked Session
  | .quit => .ok { s with quit := true }
  | .scrollUp step => s.scrollUp (step s)
  | .scrollDown step => s.scrollDown (step s)
  | .jumpToLatest => s.dispatch .jumpToLatest
  | .jumpToUnread => s.dispatch .jumpToUnread
  | .retry => s.retry
  | .send => s.send cannedReply
  | .focus focused => s.setFocus focused
  | .nothing => .ok s

theorem press_eq (s : Session) (k : Key) (control : Bool) :
    s.press k control = s.act (k.action control) := by
  unfold press
  split
  case h_6 h | h_8 h =>
    cases control with
    | true => exact absurd rfl h
    | false => rfl
  case h_17 =>
    unfold Key.action
    split <;> simp_all [act]
  all_goals rfl

theorem receiveInput_eq (s : Session) (i : Input) : s.receiveInput i = s.act i.action := by
  cases i with
  | key k control => exact s.press_eq k control
  | _ => rfl

/-! ## What the window is told -/

/-- The view is moved, and the window is told of its offset. -/
def scrolled (s : Session) (move : Viewport → Viewport) : Session × List Event :=
  let s := s.mapWindow fun w => { w with viewport := move w.viewport }
  (s, [.scroll (s.window.viewport.offset s.graph)])

/-- What the reader changes before the window is told of anything, and what it is told then. -/
def toldBy (s : Session) : Action → Option (Session × List Event)
  | .quit => some ({ s with quit := true }, [])
  | .scrollUp step => some (s.scrolled (·.scrollUp s.graph (step s)))
  | .scrollDown step => some (s.scrolled (·.scrollDown s.graph (step s)))
  | .jumpToLatest => some (s, [.jumpToLatest])
  | .jumpToUnread => some (s, [.jumpToUnread])
  | .retry =>
    match s.failure with
    | some (d, _) => some ({ s with failure := none }, [.retry d])
    | none => some (s, [])
  | .send =>
    (s.feed.send cannedReply (s.timeAt s.now)).toOption.map fun (feed, sent) =>
      ({ s with feed }.start feed.config.latency (.acknowledgement sent), [.update])
  | .focus focused => some (s.mapWindow fun w => { w with focused }, [.focus focused])
  | .nothing => some (s, [])

/-- A page that was loaded makes up for the failure of its direction. -/
def forgiven (s : Session) (d : Direction) (r : FetchResult) : Session :=
  if r.isLoaded && s.hasFailed d then { s with failure := none } else s

/-- What a move changes before the window is told of anything, and what it is told then; none if
the move is not possible. -/
def told (s : Session) : Move → Option (Session × List Event)
  | .mount rows => some (s.mapWindow fun w => { w with viewport.height := rows }, [.mount])
  | .input i => s.toldBy i.action
  | .tick => some (s, [.tick])
  | .teardown => some (s, [.teardown])
  | .resize rows => some (s.mapWindow fun w => { w with viewport.height := rows }, [])
  | .wait ms => some ({ s with now := s.now + ms }, [])
  | .perform n =>
    s.tasks[n]?.map fun t => ({ s with tasks := s.tasks.eraseIdx n }.perform t, [])
  | .hearResult =>
    match s.results with
    | (d, r) :: results => some ({ s with results }.forgiven d r, [.update, .settled d r])
    | [] => none
  | .hearNews =>
    match s.news with
    | .arrived _ ours :: news =>
      (if ours then some s.unread else (Count.add s.unread 1).toOption).map fun unread =>
        ({ s with news, unread }, [.update])
    | .acknowledged _ :: news => some ({ s with news }, [])
    | [] => none
  | .close => some ({ s with closed := true }, [])

/-- The window is told of events, one after the other. -/
def tell (s : Session) (es : List Event) : Checked Session := es.foldlM dispatch s

theorem tell_cons (s : Session) (e : Event) (es : List Event) :
    s.tell (e :: es) = s.dispatch e >>= fun s => s.tell es := List.foldlM_cons

theorem tell_singleton (s : Session) (e : Event) : s.tell [e] = s.dispatch e := by
  rw [tell_cons]
  cases s.dispatch e <;> rfl

/-- The subscription begins, if there is to be one. -/
def subscribe (s : Session) : Session :=
  match s.incomingEvery with
  | some period => s.start period (.subscription period 0)
  | none => s

/-- What is left to do once the window has been told of a move. -/
def settleMove (s : Session) : Move → Session
  | .mount _ => s.subscribe
  | _ => s

theorem handleResult_eq (s : Session) (d : Direction) (r : FetchResult) :
    s.handleResult d r = (s.forgiven d r).tell [.update, .settled d r] := by
  simp only [tell_cons _ .update, tell_singleton]
  rfl

theorem act_eq (s : Session) (x : Action) :
    (s.act x).toOption = (s.toldBy x).bind fun (a, es) => (a.tell es).toOption := by
  cases x with
  | send =>
    rw [act, toldBy, send]
    cases s.feed.send cannedReply (s.timeAt s.now) with
    | error fault => rfl
    | ok p => exact congrArg Except.toOption (tell_singleton _ _).symm
  | retry =>
    rw [act, toldBy, retry]
    cases s.failure with
    | some failed => exact congrArg Except.toOption (tell_singleton _ _).symm
    | none => rfl
  | quit => rfl
  | nothing => rfl
  | _ => exact congrArg Except.toOption (tell_singleton _ _).symm

theorem settleMove_of_ne (s : Session) (hm : ∀ rows, m ≠ .mount rows) : s.settleMove m = s := by
  cases m with
  | mount rows => exact absurd rfl (hm rows)
  | _ => rfl

theorem map_settleMove_of_ne (hm : ∀ rows, m ≠ .mount rows) (x : Checked Session) :
    x.map (·.settleMove m) = x := by
  cases x with
  | error fault => rfl
  | ok s => exact congrArg Except.ok (s.settleMove_of_ne hm)

/-- A dispatch of one event. -/
theorem toOption_tell_singleton (hm : ∀ rows, m ≠ .mount rows) (s : Session) (e : Event) :
    ((s.tell [e]).map (·.settleMove m)).toOption = (s.dispatch e).toOption := by
  rw [map_settleMove_of_ne hm, tell_singleton]

/-- **A move is its own change**, and a dispatch of each event from there on. -/
theorem move_eq (s : Session) (m : Move) : s.move m =
    (s.told m).bind fun (a, es) => ((a.tell es).map (·.settleMove m)).toOption := by
  cases m with
  | mount rows =>
    rw [move, told, Option.bind_some, mount]
    dsimp only
    rw [tell_singleton]
    cases (s.mapWindow fun w => { w with viewport.height := rows }).dispatch .mount <;> rfl
  | input i =>
    rw [move, told, receiveInput_eq, act_eq]
    simp only [map_settleMove_of_ne (m := .input i) (by simp)]
  | tick => exact (toOption_tell_singleton (m := .tick) (by simp) _ _).symm
  | teardown => exact (toOption_tell_singleton (m := .teardown) (by simp) _ _).symm
  | perform n =>
    rw [move, told]
    cases s.tasks[n]? <;> rfl
  | hearResult =>
    rw [move, told]
    cases s.results with
    | nil => rfl
    | cons r results =>
      simp only [Option.bind_some, handleResult_eq,
        map_settleMove_of_ne (m := .hearResult) (by simp)]
  | hearNews =>
    rw [move, told]
    cases s.news with
    | nil => rfl
    | cons n news =>
      cases n with
      | arrived i ours =>
        dsimp only
        cases ours with
        | true => exact (toOption_tell_singleton (m := .hearNews) (by simp) _ _).symm
        | false =>
          rw [if_neg Bool.false_ne_true, handleNews, if_neg Bool.false_ne_true]
          cases Count.add s.unread 1 with
          | error fault => rfl
          | ok unread => exact (toOption_tell_singleton (m := .hearNews) (by simp) _ _).symm
      | acknowledged sent => rfl
  | _ => rfl

theorem exists_told (hm : s.move m = some s') : ∃ a es b, s.told m = some (a, es) ∧
    a.tell es = .ok b ∧ s' = b.settleMove m := by
  rw [move_eq] at hm
  obtain ⟨⟨a, es⟩, htold, htell⟩ := Option.bind_eq_some_iff.1 hm
  obtain ⟨b, hb, rfl⟩ := Checked.map_eq_ok.1 (toOption_eq_some.1 htell)
  exact ⟨a, es, b, htold, hb, rfl⟩

/-- What is left to do once the window has been told concerns the work under way only. -/
theorem exists_settleMove_eq (s : Session) (m : Move) :
    ∃ tasks started, s.settleMove m = { s with tasks, started } := by
  cases m with
  | mount rows =>
    rw [settleMove, subscribe]
    split <;> exact ⟨_, _, rfl⟩
  | _ => exact ⟨_, _, rfl⟩

theorem perform_window (s : Session) (t : Task) : (s.perform t).window = s.window := by
  unfold perform
  split
  · split <;> rfl
  · split
    · rw [report]
      split <;> rfl
    · rfl
  · dsimp only
    split
    · split <;> rfl
    · rfl

/-- By itself a move changes the view and the focus of the window at most. -/
theorem told_window (h : s.told m = some (a, es)) :
    ∃ viewport focused, a.window = { s.window with viewport, focused } := by
  cases m with
  | input i =>
    have h : s.toldBy i.action = some (a, es) := h
    unfold toldBy at h
    split at h
    case h_6 => split at h <;> cases h <;> exact ⟨_, _, rfl⟩
    case h_7 =>
      obtain ⟨_, -, heq⟩ := Option.map_eq_some_iff.1 h
      cases heq
      exact ⟨_, _, rfl⟩
    all_goals
      cases h
      exact ⟨_, _, rfl⟩
  | perform n =>
    obtain ⟨t, -, heq⟩ := Option.map_eq_some_iff.1 h
    cases heq
    exact ⟨_, _, perform_window _ t⟩
  | hearResult =>
    rw [told] at h
    split at h
    · cases h
      rw [forgiven]
      split <;> exact ⟨_, _, rfl⟩
    · cases h
  | hearNews =>
    rw [told] at h
    split at h
    · obtain ⟨_, -, heq⟩ := Option.map_eq_some_iff.1 h
      cases heq
      exact ⟨_, _, rfl⟩
    · cases h
      exact ⟨_, _, rfl⟩
    · cases h
  | _ =>
    cases h
    exact ⟨_, _, rfl⟩

theorem told_state (h : s.told m = some (a, es)) : a.window.state = s.window.state := by
  obtain ⟨_, _, hwindow⟩ := told_window h
  rw [hwindow]

/-- A jump to the newest message is nothing but told to the window. -/
theorem told_of_jumps (hm : m.jumps = true) : s.told m = some (s, [.jumpToLatest]) := by
  unfold Move.jumps at hm
  split at hm
  · rfl
  · rfl
  · cases hm

theorem jumps_of_action {i : Input} (hi : i.action = .jumpToLatest) :
    (Move.input i).jumps = true := by
  cases i with
  | key k control =>
    have hk : k.action control = .jumpToLatest := hi
    unfold Key.action at hk
    split at hk <;> first | rfl | cases hk
  | _ => cases hi

theorem jumps_of_told (h : s.told m = some (a, es)) (hmem : .jumpToLatest ∈ es) :
    m.jumps = true := by
  cases m with
  | input i =>
    have h : s.toldBy i.action = some (a, es) := h
    unfold toldBy at h
    split at h
    case h_4 haction => exact jumps_of_action haction
    case h_6 => split at h <;> cases h <;> simp at hmem
    case h_7 =>
      obtain ⟨_, -, heq⟩ := Option.map_eq_some_iff.1 h
      cases heq
      simp at hmem
    all_goals
      cases h
      simp at hmem
  | perform n =>
    obtain ⟨t, -, heq⟩ := Option.map_eq_some_iff.1 h
    cases heq
    cases hmem
  | hearResult =>
    rw [told] at h
    split at h
    · cases h
      simp at hmem
    · cases h
  | hearNews =>
    rw [told] at h
    split at h
    · obtain ⟨_, -, heq⟩ := Option.map_eq_some_iff.1 h
      cases heq
      simp at hmem
    · cases h
      cases hmem
    · cases h
  | _ =>
    cases h
    simp at hmem

/-- A move is nothing but a jump to the newest message, or the window is told of no such jump. -/
theorem jumps_cases (h : s.told m = some (a, es)) :
    m.jumps = true ∧ a = s ∧ es = [.jumpToLatest] ∨ m.jumps = false ∧ .jumpToLatest ∉ es := by
  cases hjumps : m.jumps with
  | true =>
    rw [told_of_jumps hjumps] at h
    cases h
    exact .inl ⟨rfl, rfl, rfl⟩
  | false =>
    refine .inr ⟨rfl, ?_⟩
    intro hmem
    rw [jumps_of_told h hmem] at hjumps
    cases hjumps

/-- Only a jump to the newest message brings anything into the feed while the window is told. -/
theorem tell_feed (hjump : .jumpToLatest ∉ es) (h : a.tell es = .ok b) : b.feed = a.feed := by
  induction es generalizing a with
  | nil =>
    cases h
    rfl
  | cons e es ih =>
    obtain ⟨he, hes⟩ := not_or.1 (mt List.mem_cons.2 hjump)
    rw [tell_cons] at h
    obtain ⟨c, hdispatch, h⟩ := Checked.bind_eq_ok.1 h
    rw [ih hes h, (dispatch_asks hdispatch).feed, feed_begun_of_ne (Ne.symm he)]

/-- The events that are handled while the window is told of some, in order. -/
def handledTelling (s : Session) : List Event → List (Session × Event)
  | [] => []
  | e :: es =>
    handledWithin wake [e] s ++
      match s.dispatch e with
      | .ok s' => s'.handledTelling es
      | .error _ => []

/-- The events that are handled in the course of a move, in order. -/
def handledIn (s : Session) (m : Move) : List (Session × Event) :=
  match s.told m with
  | some (a, es) => a.handledTelling es
  | none => []

/-- **What each event keeps true** of the events handled so far, the queue and the session is true
of all events and the empty queue once the window has been told of everything. -/
theorem tell_trace {P : List (Session × Event) → List Event → Session → Prop}
    (seen : List (Session × Event))
    (perm : ∀ {seen queue queue' x}, queue.Perm queue' → P seen queue x → P seen queue' x)
    (step : ∀ {seen e queue x y more}, x.handle e = .ok (y, more) → P seen (e :: queue) x →
      P (seen ++ [(x, e)]) (more ++ queue) y)
    (start : P seen es a) (h : a.tell es = .ok b) : P (seen ++ a.handledTelling es) [] b := by
  induction es generalizing a seen with
  | nil =>
    cases h
    rwa [handledTelling, List.append_nil]
  | cons e es ih =>
    rw [tell_cons] at h
    obtain ⟨c, hdispatch, h⟩ := Checked.bind_eq_ok.1 h
    -- the events that are to be told of later wait behind those of the dispatch
    have hc : P (seen ++ handledWithin wake [e] a) ([] ++ es) c := by
      refine dispatch_trace (P := fun seen queue x => P seen (queue ++ es) x) seen ?_ start
        hdispatch
      intro seen e' rest x y more hhandle hx
      have hy : P (seen ++ [(x, e')]) (more ++ (rest ++ es)) y := step hhandle hx
      rw [← List.append_assoc] at hy
      exact perm (List.perm_append_comm.append_right es) hy
    have hlast := ih _ hc h
    rw [List.append_assoc] at hlast
    simpa only [handledTelling, hdispatch] using hlast

/-- What each event keeps true of the queue and the session is true of the empty queue once the
window has been told of everything. -/
theorem tell_induction {P : List Event → Session → Prop}
    (perm : ∀ {queue queue' x}, queue.Perm queue' → P queue x → P queue' x)
    (step : ∀ {e queue x y more}, x.handle e = .ok (y, more) → P (e :: queue) x →
      P (more ++ queue) y)
    (start : P es a) (h : a.tell es = .ok b) : P [] b :=
  tell_trace (P := fun _ => P) [] perm step start h

/-- An event takes nothing from the history and leaves no hole in the loaded part. -/
theorem handle_continues {more : List Event} (h : s.handle e = .ok (s', more)) :
    s.feed.Continues s'.feed := by
  rcases handle_feed_cases h with hsame | hjump
  · rw [hsame]
    exact (Feed.Grows.refl _).toContinues
  · rw [hjump]
    exact s.feed.continues_jumpToLatest

/-- An event adds nothing to the history. -/
theorem handle_remote {more : List Event} (h : s.handle e = .ok (s', more)) :
    s'.feed.remote = s.feed.remote := by
  rcases handle_feed_cases h with hsame | hjump
  · rw [hsame]
  · rw [hjump]
    exact s.feed.jumpToLatest_frame.1

/-- Events add nothing to the history, put no news into the queue, and make nothing unread. -/
theorem tell_frame (h : a.tell es = .ok b) :
    b.feed.remote = a.feed.remote ∧ b.news = a.news ∧ (b.unread = 0 ∨ b.unread = a.unread) := by
  refine tell_induction (P := fun _ x => x.feed.remote = a.feed.remote ∧ x.news = a.news ∧
    (x.unread = 0 ∨ x.unread = a.unread)) ?_ ?_ ⟨rfl, rfl, .inr rfl⟩ h
  · exact fun _ hx => hx
  · rintro e queue x y more hh ⟨hremote, hnews, hunread⟩
    obtain ⟨t, -, -, hy, -⟩ := handle_transition hh
    refine ⟨(handle_remote hh).trans hremote, (handle_news hh).trans hnews, ?_⟩
    split at hy
    · exact .inl hy
    · rwa [hy]

/-! ## The kinds of change -/

/-- The messages of others of which news waits, oldest first. -/
def waiting (s : Session) : List MessageIndex := s.news.filterMap FeedEvent.arrival?

/-- The message of somebody else of which a move has the news heard, if there is one. -/
def heard (s : Session) : Move → List MessageIndex
  | .hearNews => (s.news.head?.bind FeedEvent.arrival?).toList
  | _ => []

/-- What a move changes by itself of the history, the unread messages and the news of others. -/
inductive Change (s : Session) (m : Move) (a : Session) : List Event → Prop
  /-- Nothing of all that. -/
  | nothing (es : List Event) : s.answer? m = none → s.heard m = [] → a.feed = s.feed →
      a.unread = s.unread → a.waiting = s.waiting → Change s m a es
  /-- A page request is answered. -/
  | answers (d : Direction) : s.answer? m = some (d, (s.feed.settle d).2) → s.heard m = [] →
      a.feed = (s.feed.settle d).1 → a.unread = s.unread → a.waiting = s.waiting →
      Change s m a []
  /-- The acknowledgement of a send comes in. -/
  | acknowledges (sent : PendingSend) : s.answer? m = none → s.heard m = [] →
      a.feed = (s.feed.acknowledge sent).1 → a.unread = s.unread → a.waiting = s.waiting →
      Change s m a []
  /-- Somebody else's message is added to the history, and news of it waits. -/
  | announces (msg : Message) (i : MessageIndex) : s.answer? m = none → s.heard m = [] →
      s.feed.append msg = .ok (a.feed, i) → a.unread = s.unread →
      a.waiting = s.waiting ++ [i] → s.closed = false → Change s m a []
  /-- A message is added to the history without news of it: the window is told of it at once, or no
  news is taken any more. -/
  | adds (es : List Event) (msg : Message) (i : MessageIndex) (grown : Feed) :
      s.answer? m = none → s.heard m = [] → s.feed.append msg = .ok (grown, i) →
      a.feed.remote = grown.remote → a.feed.loaded = grown.loaded →
      a.feed.config = grown.config → a.feed.requests = grown.requests → a.unread = s.unread →
      a.waiting = s.waiting → (es = [] → s.closed = true) → Change s m a es
  /-- The news of somebody else's message is heard, which makes it unread. -/
  | hears (i : MessageIndex) : s.answer? m = none → s.heard m = [i] → a.feed = s.feed →
      a.unread = s.unread + 1 → s.waiting = i :: a.waiting → Change s m a [.update]

theorem waiting_report_acknowledged (s : Session) (sent : PendingSend) :
    (s.report (.acknowledged sent)).waiting = s.waiting := by
  rw [report]
  split
  · rfl
  · rw [waiting, List.filterMap_append]
    exact List.append_nil _

/-- An acknowledgement that comes in. -/
theorem acknowledgement_change (ha : s.answer? m = none) (hh : s.heard m = [])
    (hfeed : a.feed = s.feed) (hunread : a.unread = s.unread) (hwaiting : a.waiting = s.waiting)
    (number due : Nat) (sent : PendingSend) :
    Change s m (a.perform ⟨number, due, .acknowledgement sent⟩) [] := by
  cases hack : a.feed.acknowledge sent with
  | mk feed ours =>
    have hacked : feed = (s.feed.acknowledge sent).1 := by rw [← hfeed, hack]
    cases ours with
    | true =>
      simp only [perform, hack]
      refine .acknowledges sent ha hh ?_ ?_ ((waiting_report_acknowledged _ _).trans hwaiting)
      · rw [report]
        split <;> exact hacked
      · rw [report]
        split <;> exact hunread
    | false =>
      simp only [perform, hack]
      exact .acknowledges sent ha hh hacked hunread hwaiting

/-- Somebody else's message comes in. -/
theorem subscription_change (ha : s.answer? m = none) (hh : s.heard m = [])
    (hfeed : a.feed = s.feed) (hunread : a.unread = s.unread) (hwaiting : a.waiting = s.waiting)
    (hclosed : a.closed = s.closed) (number due period delivered : Nat) :
    Change s m (a.perform ⟨number, due, .subscription period delivered⟩) [] := by
  cases hreceive : a.feed.receive (subscriptionAuthor (delivered + 1))
      (subscriptionText (delivered + 1)) (a.timeAt due) with
  | error fault =>
    simp only [perform, hreceive]
    exact .nothing [] ha hh hfeed hunread hwaiting
  | ok p =>
    have happend := hreceive
    rw [Feed.receive, hfeed] at happend
    simp only [perform, hreceive]
    split
    · next hsilent =>
      refine .adds [] _ _ _ ha hh happend rfl rfl rfl rfl hunread hwaiting fun _ => ?_
      rw [← hclosed, hsilent]
    · next hopen =>
      refine .announces _ _ ha hh happend hunread ?_ ?_
      · rw [← hwaiting]
        exact List.filterMap_append
      · rwa [← hclosed, ← Bool.not_eq_true]

/-- Work that is done. -/
theorem perform_change {n : Nat} {t : Task} (ht : s.tasks[n]? = some t) :
    Change s (.perform n) ({ s with tasks := s.tasks.eraseIdx n }.perform t) [] := by
  obtain ⟨number, due, job⟩ := t
  cases job with
  | page d =>
    rw [perform_page]
    exact .answers d (by simp only [answer?, ht]) rfl rfl rfl rfl
  | acknowledgement sent =>
    have hanswer : s.answer? (.perform n) = none := by simp only [answer?, ht]
    exact acknowledgement_change (a := { s with tasks := s.tasks.eraseIdx n }) hanswer rfl rfl rfl
      rfl number due sent
  | subscription period delivered =>
    have hanswer : s.answer? (.perform n) = none := by simp only [answer?, ht]
    exact subscription_change (a := { s with tasks := s.tasks.eraseIdx n }) hanswer rfl rfl rfl
      rfl rfl number due period delivered

theorem toldBy_change {i : Input} (h : s.toldBy i.action = some (a, es)) :
    Change s (.input i) a es := by
  unfold toldBy at h
  split at h
  case h_7 =>
    obtain ⟨⟨feed, sent⟩, hsend, heq⟩ := Option.map_eq_some_iff.1 h
    cases heq
    obtain ⟨msg, grown, happend, hr, hl, hc, hn⟩ :=
      Feed.exists_append_of_send (toOption_eq_some.1 hsend)
    exact .adds _ msg _ grown rfl rfl happend hr hl hc hn rfl rfl nofun
  case h_6 =>
    split at h <;> cases h <;> exact .nothing _ rfl rfl rfl rfl rfl
  all_goals
    cases h
    exact .nothing _ rfl rfl rfl rfl rfl

/-- **What a move changes by itself** is of one of these kinds. -/
theorem told_change (h : s.told m = some (a, es)) : Change s m a es := by
  cases m with
  | input i => exact toldBy_change h
  | perform n =>
    obtain ⟨t, ht, heq⟩ := Option.map_eq_some_iff.1 h
    cases heq
    exact perform_change ht
  | hearResult =>
    rw [told] at h
    split at h
    · cases h
      rw [forgiven]
      split <;> exact .nothing _ rfl rfl rfl rfl rfl
    · cases h
  | hearNews =>
    rw [told] at h
    split at h
    · next i ours news hnews =>
      obtain ⟨unread, hunread, heq⟩ := Option.map_eq_some_iff.1 h
      cases heq
      cases ours with
      | true =>
        cases hunread
        refine .nothing _ rfl ?_ rfl rfl ?_
        · rw [heard, hnews]
          rfl
        · rw [waiting, waiting, hnews]
          rfl
      | false =>
        obtain ⟨-, rfl⟩ := Count.add_eq_ok.1 (toOption_eq_some.1 hunread)
        refine .hears i rfl ?_ rfl rfl ?_
        · rw [heard, hnews]
          rfl
        · rw [waiting, waiting, hnews]
          rfl
    · next sent news hnews =>
      cases h
      refine .nothing _ rfl ?_ rfl rfl ?_
      · rw [heard, hnews]
        rfl
      · rw [waiting, waiting, hnews]
        rfl
    · cases h
  | _ =>
    cases h
    exact .nothing _ rfl rfl rfl rfl rfl

/-- The history and the loaded part lose nothing by a change. -/
theorem Change.grows (h : Change s m a es) : s.feed.Grows a.feed := by
  cases h with
  | nothing es _ _ hfeed => exact hfeed ▸ .refl _
  | answers d _ _ hfeed => exact hfeed ▸ s.feed.grows_settle d
  | acknowledges sent _ _ hfeed => exact hfeed ▸ s.feed.grows_acknowledge sent
  | announces msg i _ _ happend => exact Feed.grows_append happend
  | adds es msg i grown _ _ happend hr hl hc hn =>
    exact (Feed.grows_append happend).trans (.of_eq hr hl hc (Nat.le_of_eq hn.symm))
  | hears i _ _ hfeed => exact hfeed ▸ .refl _

end Session

end Scrollback
