import Scrollback.Proofs.Window.Command
import Scrollback.Session.Dispatch
/-!
# What a dispatch does

An event sets off a chain of further events. The chain is short: a jump that replaces the loaded
part is followed by a reset, and whatever else is changed on the way is followed by updates. All
in all the event has its own effect on the feed and the gates, and beyond that pages are asked for
through idle gates.

## Main definitions

* `Session.replaces` — an event that exchanges the loaded part.
* `Session.Asks` — from one session to the next, pages are asked for and nothing else is touched.
* `Session.begun` — what an event changes by itself.
* `Session.handledWithin` — the events that are handled, in order.

## Main statements

* `Session.handle_page` — what one event does to the feed.
* `Session.handle_transition` — one event moves the window and may mark messages as read.
* `Session.dispatch_trace` — the events that one event sets off are all handled.
* `Session.dispatch_asks` — a dispatch is what its event changes, and requests from there on.
-/

namespace Scrollback

namespace Session

variable {s s' s₁ s₂ : Session} {e : Event} {d : Direction} {more : List Event}

/-- How many page requests of a direction have not been answered. -/
def pageTasks (s : Session) (d : Direction) : Nat :=
  s.tasks.countP fun t => decide (t.job = .page d)

/-- One if there is something to mark as read, and so an update to come of it. -/
def owed (s : Session) : Nat := if s.unread = 0 then 0 else 1

theorem pageTasks_start_page (s : Session) (delay : Nat) (d e : Direction) :
    (s.start delay (.page e)).pageTasks d = s.pageTasks d + if e = d then 1 else 0 := by
  simp [pageTasks, start, List.countP_cons]

/-- What commands other than a jump do: pages are asked for, and updates may follow. -/
structure Carries (s s' : Session) (asked : Direction → Nat) (followUps : List Event) : Prop where
  window : s'.window = s.window
  results : s'.results = s.results
  news : s'.news = s.news
  feed : s'.feed = s.feed
  pageTasks : ∀ d, s'.pageTasks d = s.pageTasks d + asked d
  updates : ∃ n, followUps = List.replicate n .update ∧ n + s'.owed ≤ s.owed

theorem Carries.refl (s : Session) : Carries s s (fun _ => 0) [] :=
  ⟨rfl, rfl, rfl, rfl, fun _ => rfl, 0, rfl, Nat.le_of_eq (Nat.zero_add _)⟩

theorem Carries.trans {f g : Direction → Nat} {es fs : List Event} (h : Carries s s₁ f es)
    (k : Carries s₁ s₂ g fs) : Carries s s₂ (fun d => f d + g d) (es ++ fs) := by
  obtain ⟨n, rfl, hn⟩ := h.updates
  obtain ⟨m, rfl, hm⟩ := k.updates
  exact
    { window := k.window.trans h.window
      results := k.results.trans h.results
      news := k.news.trans h.news
      feed := k.feed.trans h.feed
      pageTasks := fun d => by rw [k.pageTasks, h.pageTasks, Nat.add_assoc]
      updates := ⟨n + m, List.replicate_append_replicate, by omega⟩ }

/-- One command other than a jump. -/
theorem execute_carries {c : Command} (h : c ≠ .getMostRecent) :
    Carries s (s.execute c).1 (fun d => if c = .fetch d then 1 else 0) (s.execute c).2.toList := by
  cases c with
  | fetch e =>
    refine ⟨rfl, rfl, rfl, rfl, fun d => ?_, 0, rfl, Nat.le_of_eq (Nat.zero_add _)⟩
    simp only [execute, pageTasks_start_page, Command.fetch.injEq]
  | dismissUnread =>
    refine ⟨rfl, rfl, rfl, rfl, fun d => rfl, ?_⟩
    by_cases hu : s.unread = 0
    · exact ⟨0, by simp [execute, hu], by simp [execute, owed, hu]⟩
    · exact ⟨1, by simp [execute, hu], by simp [execute, owed, hu]⟩
  | getMostRecent => exact absurd rfl h
  | fetchFailed d x =>
    exact ⟨rfl, rfl, rfl, rfl, fun d => rfl, 0, rfl, Nat.le_of_eq (Nat.zero_add _)⟩

theorem execute_of_extended {added : Nat} (h : s.feed.jumpToLatest.2 = .extended added) :
    s.execute .getMostRecent =
      ({ s with feed := s.feed.jumpToLatest.1 }, if added = 0 then none else some .update) := by
  cases hpage : s.feed.jumpToLatest with
  | mk f page =>
    rw [hpage] at h
    cases h
    simp only [execute, hpage]

theorem execute_of_replaced (h : s.feed.jumpToLatest.2 = .replaced) :
    s.execute .getMostRecent =
      ({ s with feed := s.feed.jumpToLatest.1, failure := none }, some .reset) := by
  cases hpage : s.feed.jumpToLatest with
  | mk f page =>
    rw [hpage] at h
    cases h
    simp only [execute, hpage]

theorem execute_getMostRecent_feed (s : Session) :
    (s.execute .getMostRecent).1.feed = s.feed.jumpToLatest.1 := by
  cases hpage : s.feed.jumpToLatest.2 with
  | extended added => rw [execute_of_extended hpage]
  | replaced => rw [execute_of_replaced hpage]

theorem execute_followUp_ne_reset {c : Command} (h : c ≠ .getMostRecent) :
    (s.execute c).2 ≠ some .reset := by
  intro hreset
  obtain ⟨n, hn, -⟩ := (execute_carries (s := s) h).updates
  rw [hreset, Option.toList_some] at hn
  cases n with
  | zero => cases hn
  | succ n => cases hn

theorem executeAll_cons (s : Session) (replaced : Bool) (c : Command) (rest : List Command)
    (h : (replaced && c.isFetch) = false) :
    s.executeAll replaced (c :: rest) =
      (((s.execute c).1.executeAll (replaced || (s.execute c).2 == some .reset) rest).1,
        (s.execute c).2.toList ++
          ((s.execute c).1.executeAll (replaced || (s.execute c).2 == some .reset) rest).2) := by
  rw [executeAll, h]
  rfl

/-- Commands without a jump. If the loaded part has been replaced, no page is asked for. -/
theorem executeAll_carries (s : Session) (replaced : Bool) {cs : List Command}
    (h : .getMostRecent ∉ cs) :
    Carries s (s.executeAll replaced cs).1
      (fun d => if replaced then 0 else cs.count (.fetch d)) (s.executeAll replaced cs).2 := by
  induction cs generalizing s with
  | nil => cases replaced <;> exact .refl s
  | cons c rest ih =>
    obtain ⟨hc, hrest⟩ := not_or.1 (mt List.mem_cons.2 h)
    by_cases hdrop : (replaced && c.isFetch) = true
    · rw [executeAll, if_pos hdrop]
      obtain ⟨rfl, -⟩ := Bool.and_eq_true_iff.1 hdrop
      exact ih s hrest
    · have hne := execute_followUp_ne_reset (s := s) (Ne.symm hc)
      have hflag : (replaced || (s.execute c).2 == some .reset) = replaced := by
        rw [beq_eq_false_iff_ne.2 hne, Bool.or_false]
      rw [executeAll_cons s replaced c rest (eq_false_of_ne_true hdrop), hflag]
      have key := (execute_carries (s := s) (Ne.symm hc)).trans (ih _ hrest)
      refine { key with pageTasks := fun d => (key.pageTasks d).trans ?_ }
      cases replaced with
      | true =>
        have hnot : c ≠ .fetch d := fun hcd => hdrop (by rw [hcd]; rfl)
        simp [hnot]
      | false => simp [List.count_cons, Nat.add_comm]

/-- Commands leave the window alone. -/
theorem execute_window (s : Session) (c : Command) : (s.execute c).1.window = s.window := by
  cases c with
  | getMostRecent =>
    rw [execute]
    split <;> rfl
  | _ => rfl

theorem execute_closed (s : Session) (c : Command) : (s.execute c).1.closed = s.closed := by
  cases c with
  | getMostRecent =>
    rw [execute]
    split <;> rfl
  | _ => rfl

theorem execute_unread (s : Session) (c : Command) :
    (s.execute c).1.unread = if c = .dismissUnread then 0 else s.unread := by
  cases c with
  | getMostRecent =>
    rw [execute]
    split <;> rfl
  | _ => rfl

theorem executeAll_window (s : Session) (replaced : Bool) (cs : List Command) :
    (s.executeAll replaced cs).1.window = s.window := by
  induction cs generalizing s replaced with
  | nil => rfl
  | cons c rest ih =>
    by_cases hdrop : (replaced && c.isFetch) = true
    · rw [executeAll, if_pos hdrop]
      exact ih s replaced
    · rw [executeAll_cons s replaced c rest (eq_false_of_ne_true hdrop)]
      exact (ih _ _).trans (s.execute_window c)

theorem executeAll_closed (s : Session) (replaced : Bool) (cs : List Command) :
    (s.executeAll replaced cs).1.closed = s.closed := by
  induction cs generalizing s replaced with
  | nil => rfl
  | cons c rest ih =>
    by_cases hdrop : (replaced && c.isFetch) = true
    · rw [executeAll, if_pos hdrop]
      exact ih s replaced
    · rw [executeAll_cons s replaced c rest (eq_false_of_ne_true hdrop)]
      exact (ih _ _).trans (s.execute_closed c)

/-- Nothing but a dismissal marks messages as read. -/
theorem executeAll_unread (s : Session) (replaced : Bool) (cs : List Command) :
    (s.executeAll replaced cs).1.unread = if .dismissUnread ∈ cs then 0 else s.unread := by
  induction cs generalizing s replaced with
  | nil => rfl
  | cons c rest ih =>
    by_cases hdrop : (replaced && c.isFetch) = true
    · have hne : Command.dismissUnread ≠ c := by
        rintro rfl
        exact Bool.false_ne_true ((Bool.and_eq_true_iff.1 hdrop).2)
      rw [executeAll, if_pos hdrop, ih]
      simp only [List.mem_cons, hne, false_or]
    · rw [executeAll_cons s replaced c rest (eq_false_of_ne_true hdrop)]
      simp only [ih, execute_unread, List.mem_cons]
      by_cases hc : c = .dismissUnread
      · simp [hc]
      · simp [hc, Ne.symm hc]

/-- Only the news of a failure leaves one. -/
theorem execute_hasFailed {c : Command} (h : (s.execute c).1.hasFailed d = true) :
    s.hasFailed d = true ∨ ∃ x, c = .fetchFailed d x := by
  cases c with
  | fetchFailed e x =>
    obtain rfl : e = d := by simpa [hasFailed, execute] using h
    exact .inr ⟨x, rfl⟩
  | getMostRecent =>
    rw [execute] at h
    split at h
    · exact .inl h
    · cases h
  | _ => exact .inl h

theorem executeAll_hasFailed {replaced : Bool} {cs : List Command}
    (h : (s.executeAll replaced cs).1.hasFailed d = true) :
    s.hasFailed d = true ∨ ∃ x, .fetchFailed d x ∈ cs := by
  induction cs generalizing s replaced with
  | nil => exact .inl h
  | cons c rest ih =>
    by_cases hdrop : (replaced && c.isFetch) = true
    · rw [executeAll, if_pos hdrop] at h
      exact (ih h).imp_right fun ⟨x, hx⟩ => ⟨x, List.mem_cons_of_mem _ hx⟩
    · rw [executeAll_cons s replaced c rest (eq_false_of_ne_true hdrop)] at h
      rcases ih h with hfailed | ⟨x, hx⟩
      · exact (execute_hasFailed hfailed).imp_right fun ⟨x, hx⟩ => ⟨x, hx ▸ List.mem_cons_self⟩
      · exact .inr ⟨x, List.mem_cons_of_mem _ hx⟩

/-- An update follows where messages were marked as read. -/
theorem update_mem_executeAll (replaced : Bool) {cs : List Command} (h : .dismissUnread ∈ cs)
    (hpos : s.unread ≠ 0) : .update ∈ (s.executeAll replaced cs).2 := by
  induction cs generalizing s replaced with
  | nil => cases h
  | cons c rest ih =>
    by_cases hdrop : (replaced && c.isFetch) = true
    · rw [executeAll, if_pos hdrop]
      refine ih replaced ((List.mem_cons.1 h).resolve_left ?_) hpos
      rintro rfl
      exact Bool.false_ne_true ((Bool.and_eq_true_iff.1 hdrop).2)
    · rw [executeAll_cons s replaced c rest (eq_false_of_ne_true hdrop), List.mem_append]
      by_cases hc : c = .dismissUnread
      · subst hc
        exact .inl (by simp [execute, hpos])
      · refine .inr (ih _ ((List.mem_cons.1 h).resolve_left (Ne.symm hc)) ?_)
        rwa [execute_unread, if_neg hc]

/-! ## Requests -/

/-- The gate of a direction. -/
def gate (s : Session) (d : Direction) : Gate := s.window.state.gate d

/-- The gate of a direction stays, and no page is asked for there. -/
structure Keeps (d : Direction) (s s' : Session) : Prop where
  gate : s'.gate d = s.gate d
  pageTasks : s'.pageTasks d = s.pageTasks d

/-- A page is asked for through an idle gate, by a window that is on screen afterwards. -/
structure Closes (d : Direction) (s s' : Session) : Prop where
  was_idle : s.gate d = .idle
  pending : s'.gate d = .pending
  pageTasks : s'.pageTasks d = s.pageTasks d + 1
  scroll : s'.window.state.scroll ≠ .initializing

/-- From one session to the next, pages are asked for and nothing else is touched of what the
requests depend on. -/
structure Asks (s s' : Session) : Prop where
  results : s'.results = s.results
  news : s'.news = s.news
  feed : s'.feed = s.feed
  tornDown : s'.window.state.tornDown = s.window.state.tornDown
  scroll : s.window.state.scroll ≠ .initializing → s'.window.state.scroll ≠ .initializing
  gate : ∀ d, Keeps d s s' ∨ Closes d s s'

theorem Asks.refl (s : Session) : Asks s s := ⟨rfl, rfl, rfl, rfl, id, fun _ => .inl ⟨rfl, rfl⟩⟩

/-- A gate that is pending is not asked through again. -/
theorem keeps_or_closes_trans (h : Keeps d s s₁ ∨ Closes d s s₁)
    (k : Keeps d s₁ s₂ ∨ Closes d s₁ s₂)
    (hscroll : s₁.window.state.scroll ≠ .initializing → s₂.window.state.scroll ≠ .initializing) :
    Keeps d s s₂ ∨ Closes d s s₂ := by
  rcases h with hk | hc
  · rcases k with kk | kc
    · exact .inl ⟨kk.gate.trans hk.gate, kk.pageTasks.trans hk.pageTasks⟩
    · exact .inr ⟨hk.gate ▸ kc.was_idle, kc.pending, hk.pageTasks ▸ kc.pageTasks, kc.scroll⟩
  · rcases k with kk | kc
    · exact .inr ⟨hc.was_idle, kk.gate.trans hc.pending, kk.pageTasks.trans hc.pageTasks,
        hscroll hc.scroll⟩
    · have hpending := hc.pending
      rw [kc.was_idle] at hpending
      cases hpending

theorem Asks.trans (h : Asks s s₁) (k : Asks s₁ s₂) : Asks s s₂ where
  results := k.results.trans h.results
  news := k.news.trans h.news
  feed := k.feed.trans h.feed
  tornDown := k.tornDown.trans h.tornDown
  scroll := fun hs => k.scroll (h.scroll hs)
  gate := fun d => keeps_or_closes_trans (h.gate d) (k.gate d) k.scroll

/-! ## One event -/

/-- The event makes the window jump to the newest message, and the newest page takes the place of
the loaded part. -/
def replaces (s : Session) (e : Event) : Bool :=
  decide (e = .jumpToLatest) && s.window.state.accepts e &&
    decide (s.feed.jumpToLatest.2 = .replaced)

/-- What an event changes by itself: the loaded part, the gates, or the end of the window. A loaded
part that is replaced opens both gates. -/
def begun (s : Session) (e : Event) : Session :=
  if s.window.state.accepts e then
    { s with
      window :=
        { s.window with
          state := s.window.state.begun (if s.replaces e then .reset else e) }
      feed := if e = .jumpToLatest then s.feed.jumpToLatest.1 else s.feed }
  else s

theorem replaces_iff : s.replaces e = true ↔ e = .jumpToLatest ∧
    s.window.state.accepts e = true ∧ s.feed.jumpToLatest.2 = .replaced := by
  rw [replaces, Bool.and_eq_true, Bool.and_eq_true, decide_eq_true_eq, decide_eq_true_eq, and_assoc]

theorem replaces_of_ne (h : e ≠ .jumpToLatest) : s.replaces e = false := by
  rw [replaces, decide_eq_false h, Bool.false_and, Bool.false_and]

theorem begun_of_not_accepts (h : s.window.state.accepts e = false) : s.begun e = s := by
  rw [begun, h]
  rfl

theorem begun_update (s : Session) : s.begun .update = s := by
  rw [begun]
  split <;> rfl

@[simp] theorem results_begun (s : Session) (e : Event) : (s.begun e).results = s.results := by
  rw [begun]
  split <;> rfl

@[simp] theorem news_begun (s : Session) (e : Event) : (s.begun e).news = s.news := by
  rw [begun]
  split <;> rfl

@[simp] theorem pageTasks_begun (s : Session) (e : Event) (d : Direction) :
    (s.begun e).pageTasks d = s.pageTasks d := by
  rw [begun]
  split <;> rfl

theorem scroll_begun (s : Session) (e : Event) :
    (s.begun e).window.state.scroll = s.window.state.scroll := by
  rw [begun]
  split
  · exact WindowState.begun_scroll _ _
  · rfl

theorem tornDown_begun (he : e ≠ .teardown) :
    (s.begun e).window.state.tornDown = s.window.state.tornDown := by
  rw [begun]
  split
  · refine WindowState.begun_tornDown ?_
    split
    · exact Event.noConfusion
    · exact he
  · rfl

theorem feed_begun (haccepts : s.window.state.accepts e = true) :
    (s.begun e).feed = if e = .jumpToLatest then s.feed.jumpToLatest.1 else s.feed := by
  rw [begun, if_pos haccepts]

theorem feed_begun_of_ne (he : e ≠ .jumpToLatest) : (s.begun e).feed = s.feed := by
  cases haccepts : s.window.state.accepts e with
  | false => rw [begun_of_not_accepts haccepts]
  | true => rw [feed_begun haccepts, if_neg he]

theorem state_begun (haccepts : s.window.state.accepts e = true) (hr : s.replaces e = false) :
    (s.begun e).window.state = s.window.state.begun e := by
  rw [begun, if_pos haccepts, hr]
  rfl

/-- A window that the loaded part is replaced under is on screen, and both its gates are open. -/
theorem state_begun_of_replaces (hr : s.replaces e = true) :
    (s.begun e).window.state = s.window.state.begun .reset ∧
      s.window.state.accepts .reset = true := by
  obtain ⟨rfl, haccepts, -⟩ := replaces_iff.1 hr
  refine ⟨?_, haccepts⟩
  rw [begun, if_pos haccepts, hr]
  rfl

/-- The window after a transition. -/
def moved (s : Session) (t : Transition) : Session :=
  { s with
    window :=
      { s.window with
        state := t.state
        viewport := t.effects.foldl (Viewport.apply s.graph) s.window.viewport } }

theorem handle_eq (s : Session) (e : Event) : s.handle e =
    (step s.window.state e (s.window.inputs s.graph s.unread s.now)).map fun t =>
      (s.moved t).executeAll false (t.effects.filterMap Effect.command?) := by
  rw [handle, Window.handle]
  cases step s.window.state e (s.window.inputs s.graph s.unread s.now) <;> rfl

theorem handle_eq_ok : s.handle e = .ok (s', more) ↔
    ∃ t, step s.window.state e (s.window.inputs s.graph s.unread s.now) = .ok t ∧
      (s.moved t).executeAll false (t.effects.filterMap Effect.command?) = (s', more) := by
  rw [handle_eq, Checked.map_eq_ok]

/-- An event of which the window takes no notice changes nothing. -/
theorem handle_of_not_accepts (hno : s.window.state.accepts e = false)
    (h : s.handle e = .ok (s', more)) : s' = s ∧ more = [] := by
  obtain ⟨t, ht, hexec⟩ := handle_eq_ok.1 h
  rw [step_of_not_accepts hno ht] at hexec
  cases hexec
  exact ⟨rfl, rfl⟩

theorem getMostRecent_not_mem {es : List Effect}
    (h : ∀ e ∈ es, e.isLocal = true ∨ ∃ d, e = .fetch d) :
    Command.getMostRecent ∉ es.filterMap Effect.command? := by
  rw [getMostRecent_mem_commands]
  intro hmem
  rcases h _ hmem with hlocal | ⟨d, hfetch⟩
  · cases hlocal
  · cases hfetch

/-- Only a jump asks for the newest page. -/
theorem getMostRecent_not_mem_commands {st : WindowState} {inp : Inputs} {t : Transition}
    (hjump : e ≠ .jumpToLatest) (haccepts : st.accepts e = true) (ht : step st e inp = .ok t) :
    Command.getMostRecent ∉ t.effects.filterMap Effect.command? := by
  obtain ⟨es, hes, hkinds⟩ := step_effects haccepts ht
  rw [getMostRecent_mem_commands, hes, List.mem_append]
  rintro (hfirst | hmem)
  · exact WindowState.getMostRecent_not_mem_firstEffects hjump hfirst
  · exact getMostRecent_not_mem hkinds (getMostRecent_mem_commands.2 hmem)

/-- A jump asks for the newest page first, and for it only once. -/
theorem exists_jump_commands {st : WindowState} {inp : Inputs} {t : Transition}
    (haccepts : st.accepts .jumpToLatest = true) (ht : step st .jumpToLatest inp = .ok t) :
    ∃ cs, t.effects.filterMap Effect.command? = .getMostRecent :: cs ∧ .getMostRecent ∉ cs ∧
      ∀ d, t.effects.count (.fetch d) = cs.count (.fetch d) := by
  obtain ⟨es, hes, hkinds⟩ := step_effects haccepts ht
  have hes : t.effects = .getMostRecent :: es := hes
  refine ⟨es.filterMap Effect.command?, ?_, getMostRecent_not_mem hkinds, fun d => ?_⟩
  · rw [hes]
    rfl
  · rw [count_fetch_commands, hes, List.count_cons_of_ne (by simp)]

/-- One for a jump to the newest message, from which an update may follow. -/
def jumps (e : Event) : Nat := if e = .jumpToLatest then 1 else 0

/-- The commands of an event that replaces nothing. -/
theorem exists_carries {t : Transition} (haccepts : s.window.state.accepts e = true)
    (hr : s.replaces e = false)
    (ht : step s.window.state e (s.window.inputs s.graph s.unread s.now) = .ok t)
    (hexec : (s.moved t).executeAll false (t.effects.filterMap Effect.command?) = (s', more)) :
    ∃ n rest, more = List.replicate n .update ++ rest ∧ n ≤ jumps e ∧
      Carries { s.moved t with feed := (s.begun e).feed } s'
        (fun d => t.effects.count (.fetch d)) rest := by
  by_cases hjump : e = .jumpToLatest
  · subst hjump
    obtain ⟨cs, hcommands, hrest, hcount⟩ := exists_jump_commands haccepts ht
    rw [hcommands, executeAll_cons _ _ _ _ rfl] at hexec
    obtain ⟨rfl, rfl⟩ := Prod.mk.inj hexec
    have hfeed : (s.begun .jumpToLatest).feed = s.feed.jumpToLatest.1 := feed_begun haccepts
    cases hpage : s.feed.jumpToLatest.2 with
    | replaced => rw [replaces_iff.2 ⟨rfl, haccepts, hpage⟩] at hr; cases hr
    | extended added =>
      rw [execute_of_extended (s := s.moved t) hpage]
      simp only [hfeed, hcount]
      by_cases hadded : added = 0
      · simp only [if_pos hadded]
        exact ⟨0, _, rfl, Nat.zero_le _, executeAll_carries _ false hrest⟩
      · simp only [if_neg hadded]
        exact ⟨1, _, rfl, Nat.le_refl 1, executeAll_carries _ false hrest⟩
  · have hfeed : (s.begun e).feed = s.feed := (feed_begun haccepts).trans (if_neg hjump)
    have hnot := getMostRecent_not_mem_commands hjump haccepts ht
    refine ⟨0, more, rfl, Nat.zero_le _, ?_⟩
    have key := executeAll_carries (s.moved t) false hnot
    simp only [hexec, count_fetch_commands] at key
    rw [hfeed]
    exact key

/-- The commands of a jump that replaces the loaded part. -/
theorem exists_carries_of_replaced {t : Transition}
    (haccepts : s.window.state.accepts .jumpToLatest = true)
    (hpage : s.feed.jumpToLatest.2 = .replaced)
    (ht : step s.window.state .jumpToLatest (s.window.inputs s.graph s.unread s.now) = .ok t)
    (hexec : (s.moved t).executeAll false (t.effects.filterMap Effect.command?) = (s', more)) :
    ∃ rest, more = .reset :: rest ∧
      Carries { s.moved t with feed := s.feed.jumpToLatest.1, failure := none } s'
        (fun _ => 0) rest := by
  obtain ⟨cs, hcommands, hrest, -⟩ := exists_jump_commands haccepts ht
  rw [hcommands, executeAll_cons _ _ _ _ rfl, execute_of_replaced (s := s.moved t) hpage] at hexec
  obtain ⟨rfl, rfl⟩ := Prod.mk.inj hexec
  exact ⟨_, rfl, executeAll_carries _ true hrest⟩

/-- An event that replaces nothing is what it changes by itself, and requests from there on. An
update follows if something was marked as read, and another one may follow from a jump. -/
theorem handle_asks (hr : s.replaces e = false) (h : s.handle e = .ok (s', more)) :
    Asks (s.begun e) s' ∧
      ∃ n, more = List.replicate n .update ∧ n + s'.owed ≤ s.owed + jumps e := by
  cases haccepts : s.window.state.accepts e with
  | false =>
    obtain ⟨rfl, rfl⟩ := handle_of_not_accepts haccepts h
    rw [begun_of_not_accepts haccepts]
    exact ⟨.refl _, 0, rfl, by omega⟩
  | true =>
    obtain ⟨t, ht, hexec⟩ := handle_eq_ok.1 h
    obtain ⟨n, rest, rfl, hn, hcarries⟩ := exists_carries haccepts hr ht hexec
    have hbegun := state_begun haccepts hr
    have hstate : s'.window.state = t.state := congrArg Window.state hcarries.window
    have hscroll : e ≠ .teardown → s'.window.state.scroll ≠ .initializing := fun he =>
      hstate ▸ step_scroll haccepts he ht
    constructor
    · refine
        { results := hcarries.results.trans (results_begun s e).symm
          news := hcarries.news.trans (news_begun s e).symm
          feed := hcarries.feed
          tornDown := by rw [hstate, hbegun, step_tornDown haccepts ht]
          scroll := fun hs => ?_
          gate := fun d => ?_ }
      · by_cases he : e = .teardown
        · subst he
          rw [hbegun] at hs
          rw [hstate, step_teardown haccepts ht]
          exact hs
        · exact hscroll he
      · have htasks := hcarries.pageTasks d
        rcases step_gate haccepts ht d with ⟨hgate, hcount⟩ | ⟨hidle, hpending, hcount⟩
        · refine .inl ⟨?_, ?_⟩
          · rw [gate, gate, hstate, hbegun, hgate]
          · rw [htasks, hcount, pageTasks_begun]
            rfl
        · refine .inr ⟨?_, ?_, ?_, hscroll ?_⟩
          · rw [gate, hbegun, hidle]
          · rw [gate, hstate, hpending]
          · rw [htasks, hcount, pageTasks_begun]
            rfl
          · rintro rfl
            rw [step_teardown haccepts ht] at hcount
            cases hcount
    · obtain ⟨m, rfl, hm⟩ := hcarries.updates
      have howed : ({ s.moved t with feed := (s.begun e).feed } : Session).owed = s.owed := rfl
      exact ⟨n + m, List.replicate_append_replicate, by omega⟩

/-- A jump that replaces the loaded part drops the requests made along with it; a reset follows. -/
theorem handle_of_replaces (hr : s.replaces e = true) (h : s.handle e = .ok (s', more)) :
    Asks (s.begun e) (s'.begun .reset) ∧
      ∃ n, more = .reset :: List.replicate n .update ∧ n + s'.owed ≤ s.owed := by
  obtain ⟨hbegun, -⟩ := state_begun_of_replaces hr
  obtain ⟨rfl, haccepts, hpage⟩ := replaces_iff.1 hr
  obtain ⟨t, ht, hexec⟩ := handle_eq_ok.1 h
  obtain ⟨rest, rfl, hcarries⟩ := exists_carries_of_replaced haccepts hpage ht hexec
  have hstate : s'.window.state = t.state := congrArg Window.state hcarries.window
  have htorn : s'.window.state.tornDown = s.window.state.tornDown := by
    rw [hstate, step_tornDown haccepts ht]
    rfl
  have hscroll : s'.window.state.scroll ≠ .initializing :=
    hstate ▸ step_scroll haccepts Event.noConfusion ht
  -- the window that is told of the reset takes notice of it
  have haccepts' : s'.window.state.accepts .reset = true :=
    WindowState.accepts_iff.2 ⟨htorn.trans (WindowState.accepts_iff.1 haccepts).1, .inl hscroll⟩
  have hreset : (s'.begun .reset).window.state = s'.window.state.begun .reset :=
    state_begun haccepts' (replaces_of_ne Event.noConfusion)
  constructor
  · exact
      { results := by rw [results_begun, results_begun, hcarries.results]; rfl
        news := by rw [news_begun, news_begun, hcarries.news]; rfl
        feed := (feed_begun haccepts').trans (hcarries.feed.trans (feed_begun haccepts).symm)
        tornDown := by rw [hreset, hbegun]; exact htorn
        scroll := fun _ => by rw [hreset]; exact hscroll
        gate := fun d => .inl
          { gate := by rw [gate, gate, hreset, hbegun]; cases d <;> rfl
            pageTasks := by rw [pageTasks_begun, pageTasks_begun, hcarries.pageTasks]; rfl } }
  · obtain ⟨n, rfl, howed⟩ := hcarries.updates
    exact ⟨n, rfl, howed⟩

/-! ## What one event leaves -/

theorem handle_feed (h : s.handle e = .ok (s', more)) : s'.feed = (s.begun e).feed := by
  cases hr : s.replaces e with
  | false => exact (handle_asks hr h).1.feed
  | true => exact (feed_begun_of_ne Event.noConfusion).symm.trans (handle_of_replaces hr h).1.feed

theorem handle_news (h : s.handle e = .ok (s', more)) : s'.news = s.news := by
  cases hr : s.replaces e with
  | false => exact (handle_asks hr h).1.news.trans (news_begun s e)
  | true =>
    have hnews := (handle_of_replaces hr h).1.news
    rwa [news_begun, news_begun] at hnews

theorem handle_results (h : s.handle e = .ok (s', more)) : s'.results = s.results := by
  cases hr : s.replaces e with
  | false => exact (handle_asks hr h).1.results.trans (results_begun s e)
  | true =>
    have hresults := (handle_of_replaces hr h).1.results
    rwa [results_begun, results_begun] at hresults

theorem handle_closed (h : s.handle e = .ok (s', more)) : s'.closed = s.closed := by
  obtain ⟨t, -, hexec⟩ := handle_eq_ok.1 h
  have hclosed := executeAll_closed (s.moved t) false (t.effects.filterMap Effect.command?)
  rw [hexec] at hclosed
  exact hclosed

/-- An update follows from a jump that joins new messages to the loaded part. -/
theorem update_mem_of_extended {added : Nat}
    (haccepts : s.window.state.accepts .jumpToLatest = true)
    (hpage : s.feed.jumpToLatest.2 = .extended added) (hadded : added ≠ 0)
    (h : s.handle .jumpToLatest = .ok (s', more)) : .update ∈ more := by
  obtain ⟨t, ht, hexec⟩ := handle_eq_ok.1 h
  obtain ⟨cs, hcommands, -⟩ := exists_jump_commands haccepts ht
  rw [hcommands, executeAll_cons _ _ _ _ rfl, execute_of_extended (s := s.moved t) hpage,
    if_neg hadded] at hexec
  obtain ⟨-, rfl⟩ := Prod.mk.inj hexec
  exact List.mem_cons_self ..

/-- **What one event does to the feed**: nothing, or the newest page is joined to the loaded part
and an update follows if that adds to it, or the page takes its place and a reset follows. -/
theorem handle_page (h : s.handle e = .ok (s', more)) : s'.feed = s.feed ∨
    (∃ added, s.feed.jumpToLatest.2 = .extended added ∧ s'.feed = s.feed.jumpToLatest.1 ∧
      (added ≠ 0 → .update ∈ more)) ∨
    s'.feed = s.feed.jumpToLatest.1 ∧ .reset ∈ more := by
  have hfeed := handle_feed h
  cases hr : s.replaces e with
  | true =>
    obtain ⟨-, n, rfl, -⟩ := handle_of_replaces hr h
    obtain ⟨rfl, haccepts, -⟩ := replaces_iff.1 hr
    rw [feed_begun haccepts, if_pos rfl] at hfeed
    exact .inr (.inr ⟨hfeed, List.mem_cons_self ..⟩)
  | false =>
    cases haccepts : s.window.state.accepts e with
    | false =>
      rw [begun_of_not_accepts haccepts] at hfeed
      exact .inl hfeed
    | true =>
      rw [feed_begun haccepts] at hfeed
      split at hfeed
      · next hjump =>
        subst hjump
        cases hpage : s.feed.jumpToLatest.2 with
        | replaced =>
          rw [replaces_iff.2 ⟨rfl, haccepts, hpage⟩] at hr
          cases hr
        | extended added =>
          exact .inr (.inl ⟨added, rfl, hfeed, fun hadded =>
            update_mem_of_extended haccepts hpage hadded h⟩)
      · exact .inl hfeed

/-- An event leaves the feed, or brings the newest page into it. -/
theorem handle_feed_cases (h : s.handle e = .ok (s', more)) :
    s'.feed = s.feed ∨ s'.feed = s.feed.jumpToLatest.1 := by
  rcases handle_page h with hsame | ⟨_, -, hjoined, -⟩ | ⟨hreplaced, -⟩
  · exact .inl hsame
  · exact .inr hjoined
  · exact .inr hreplaced

/-- One event moves the window, and may mark the unread messages as read; then an update follows. -/
theorem handle_transition (h : s.handle e = .ok (s', more)) :
    ∃ t, step s.window.state e (s.window.inputs s.graph s.unread s.now) = .ok t ∧
      s'.window = (s.moved t).window ∧
      s'.unread = (if .dismissUnread ∈ t.effects then 0 else s.unread) ∧
      (.dismissUnread ∈ t.effects → s.unread ≠ 0 → .update ∈ more) := by
  obtain ⟨t, ht, hexec⟩ := handle_eq_ok.1 h
  have hwindow := executeAll_window (s.moved t) false (t.effects.filterMap Effect.command?)
  have hunread := executeAll_unread (s.moved t) false (t.effects.filterMap Effect.command?)
  rw [hexec] at hwindow hunread
  simp only [dismissUnread_mem_commands] at hunread
  refine ⟨t, ht, hwindow, hunread, fun hmem hpos => ?_⟩
  have hmore := update_mem_executeAll (s := s.moved t) false (dismissUnread_mem_commands.2 hmem)
    hpos
  rwa [hexec] at hmore

/-- A request fails only where the window waited for a page. -/
theorem handle_hasFailed (h : s.handle e = .ok (s', more)) (hfailed : s'.hasFailed d = true) :
    s.hasFailed d = true ∨ s.gate d = .pending := by
  cases haccepts : s.window.state.accepts e with
  | false =>
    obtain ⟨rfl, -⟩ := handle_of_not_accepts haccepts h
    exact .inl hfailed
  | true =>
    obtain ⟨t, ht, hexec⟩ := handle_eq_ok.1 h
    have hsome : ((s.moved t).executeAll false
        (t.effects.filterMap Effect.command?)).1.hasFailed d = true := by
      rw [hexec]
      exact hfailed
    refine (executeAll_hasFailed hsome).imp_right ?_
    rintro ⟨x, hx⟩
    obtain ⟨es, hes, hkinds⟩ := step_effects haccepts ht
    rw [fetchFailed_mem_commands, hes, List.mem_append] at hx
    rcases hx with hfirst | hlater
    · exact WindowState.gate_of_fetchFailed_mem hfirst
    · rcases hkinds _ hlater with hlocal | ⟨e, hfetch⟩
      · cases hlocal
      · cases hfetch

/-- Each event leaves less to do: what follows it is bounded by a dismissal and a jump, and is
nothing but updates and a reset. -/
theorem handle_load (h : s.handle e = .ok (s', more)) :
    more.length + s'.owed ≤ s.owed + jumps e ∧ ∀ e' ∈ more, e' = .update ∨ e' = .reset := by
  cases hr : s.replaces e with
  | false =>
    obtain ⟨-, n, rfl, hn⟩ := handle_asks hr h
    exact ⟨by rwa [List.length_replicate], fun e' he => .inl (List.eq_of_mem_replicate he)⟩
  | true =>
    obtain ⟨-, n, rfl, hn⟩ := handle_of_replaces hr h
    obtain ⟨rfl, -⟩ := replaces_iff.1 hr
    have hjumps : jumps .jumpToLatest = 1 := rfl
    refine ⟨?_, fun e' he => ?_⟩
    · rw [List.length_cons, List.length_replicate]
      omega
    · rcases List.mem_cons.1 he with hreset | hupdate
      · exact .inr hreset
      · exact .inl (List.eq_of_mem_replicate hupdate)

theorem jumpToLatest_not_mem_of_handle (h : s.handle e = .ok (s', more)) :
    .jumpToLatest ∉ more := by
  intro hmem
  rcases (handle_load h).2 _ hmem with heq | heq <;> cases heq

theorem ne_jumpToLatest_of_handle (h : s.handle e = .ok (s', more)) :
    ∀ e' ∈ more, e' ≠ .jumpToLatest := by
  rintro e' hmem rfl
  exact jumpToLatest_not_mem_of_handle h hmem

/-! ## The chain of events -/

theorem owed_le_one (s : Session) : s.owed ≤ 1 := by
  rw [owed]
  split <;> omega

theorem handleAll_succ (fuel : Nat) (e : Event) (rest : List Event) (s : Session) :
    handleAll (fuel + 1) (e :: rest) s =
      s.handle e >>= fun p => handleAll fuel (rest ++ p.2) p.1 := rfl

/-- How many events a queue comes to at most. -/
def load (queue : List Event) (s : Session) : Nat :=
  queue.length + queue.count .jumpToLatest + s.owed

theorem load_cons (e : Event) (rest : List Event) (s : Session) :
    load (e :: rest) s = rest.length + 1 + (rest.count .jumpToLatest + jumps e) + s.owed := by
  rw [load, List.length_cons, List.count_cons, jumps]
  simp only [beq_iff_eq]

/-- An event comes to three: itself, what follows from a jump, and what follows from a dismissal. -/
theorem load_singleton_le_three (e : Event) (s : Session) : load [e] s ≤ 3 := by
  have howed := s.owed_le_one
  have hjumps : jumps e ≤ 1 := by
    rw [jumps]
    split <;> omega
  rw [load_cons, List.length_nil, List.count_nil]
  omega

/-- A dispatch has room for what an event comes to. -/
theorem load_singleton_le (e : Event) (s : Session) : load [e] s ≤ wake :=
  Nat.le_trans (load_singleton_le_three e s) (by decide)

theorem load_lt_of_handle (rest : List Event) (h : s.handle e = .ok (s', more)) :
    load (rest ++ more) s' < load (e :: rest) s := by
  have hle := (handle_load h).1
  have hjump := List.count_eq_zero.2 (jumpToLatest_not_mem_of_handle h)
  rw [load_cons, load, List.length_append, List.count_append, hjump]
  omega

/-- Queued events and what follows from them, `fuel` events at most, each with the session that it
is handled in. -/
def handledWithin : Nat → List Event → Session → List (Session × Event)
  | 0, _, _ => []
  | _, [], _ => []
  | fuel + 1, e :: rest, s =>
    (s, e) ::
      match s.handle e with
      | .ok (s', more) => handledWithin fuel (rest ++ more) s'
      | .error _ => []

theorem handledWithin_nil (fuel : Nat) (s : Session) : handledWithin fuel [] s = [] := by
  cases fuel <;> rfl

/-- What each event keeps true of the events handled so far, the queue and the session is true of
all events and the empty queue at last. -/
theorem handleAll_trace {P : List (Session × Event) → List Event → Session → Prop}
    (step : ∀ {seen e rest x y more}, x.handle e = .ok (y, more) → P seen (e :: rest) x →
      P (seen ++ [(x, e)]) (rest ++ more) y)
    {fuel : Nat} {queue : List Event} {seen : List (Session × Event)} (hfuel : load queue s ≤ fuel)
    (start : P seen queue s) (h : handleAll fuel queue s = .ok s') :
    P (seen ++ handledWithin fuel queue s) [] s' := by
  induction fuel generalizing queue s seen with
  | zero =>
    cases h
    cases queue with
    | nil => rwa [handledWithin_nil, List.append_nil]
    | cons e rest =>
      rw [load, List.length_cons] at hfuel
      omega
  | succ fuel ih =>
    cases queue with
    | nil =>
      cases h
      rwa [handledWithin_nil, List.append_nil]
    | cons e rest =>
      rw [handleAll_succ] at h
      obtain ⟨⟨y, more⟩, hhandle, h⟩ := Checked.bind_eq_ok.1 h
      have hless := load_lt_of_handle rest hhandle
      have hlast := ih (by omega) (step hhandle start) h
      rw [List.append_assoc, List.singleton_append] at hlast
      simpa only [handledWithin, hhandle] using hlast

/-- **The events that one event sets off** are all handled: what each of them keeps true of the
events handled so far, the queue and the session is true of the empty queue at last. -/
theorem dispatch_trace {P : List (Session × Event) → List Event → Session → Prop}
    (seen : List (Session × Event))
    (step : ∀ {seen e rest x y more}, x.handle e = .ok (y, more) → P seen (e :: rest) x →
      P (seen ++ [(x, e)]) (rest ++ more) y)
    (start : P seen [e] s) (h : s.dispatch e = .ok s') :
    P (seen ++ handledWithin wake [e] s) [] s' :=
  handleAll_trace step (load_singleton_le e s) start h

/-- What each event keeps true of the queue and the session is true of the empty queue at last. -/
theorem dispatch_induction {P : List Event → Session → Prop}
    (step : ∀ {e rest s s' more}, s.handle e = .ok (s', more) → P (e :: rest) s →
      P (rest ++ more) s')
    (start : P [e] s) (h : s.dispatch e = .ok s') : P [] s' :=
  dispatch_trace (P := fun _ => P) [] step start h

/-- What the first event brings about and the events that follow it keep is true in the end. -/
theorem dispatch_tail {Q : Event → Prop} {P : Session → Prop}
    (first : ∀ {y more}, s.handle e = .ok (y, more) → (∀ e' ∈ more, Q e') ∧ P y)
    (later : ∀ {e' x y more}, Q e' → x.handle e' = .ok (y, more) → P x →
      (∀ e'' ∈ more, Q e'') ∧ P y)
    (h : s.dispatch e = .ok s') : P s' := by
  have hlast : ([] : List Event) = [e] ∧ s' = s ∨ (∀ e' ∈ ([] : List Event), Q e') ∧ P s' := by
    refine dispatch_induction (P := fun queue x => queue = [e] ∧ x = s ∨
      (∀ e' ∈ queue, Q e') ∧ P x) ?_ (.inl ⟨rfl, rfl⟩) h
    intro e' rest x y more hh hx
    right
    rcases hx with ⟨hqueue, rfl⟩ | ⟨hqueue, hx⟩
    · cases hqueue
      exact first hh
    · obtain ⟨he, hrest⟩ := List.forall_mem_cons.1 hqueue
      obtain ⟨hmore, hy⟩ := later he hh hx
      exact ⟨List.forall_mem_append.2 ⟨hrest, hmore⟩, hy⟩
  rcases hlast with ⟨hqueue, -⟩ | ⟨-, hs'⟩
  · cases hqueue
  · exact hs'

/-- What is in the queue after an event: at first a reset, if the loaded part was replaced, and then
updates. -/
inductive Wake (s : Session) (e : Event) : List Event → Session → Prop
  | told : Wake s e [e] s
  | reset {x : Session} (n : Nat) : Asks (s.begun e) (x.begun .reset) →
      Wake s e (.reset :: List.replicate n .update) x
  | updates {x : Session} (n : Nat) : Asks (s.begun e) x →
      Wake s e (List.replicate n .update) x

theorem Wake.handle {x y : Session} {e' : Event} {queue rest : List Event} (hw : Wake s e queue x)
    (hqueue : queue = e' :: rest) (h : x.handle e' = .ok (y, more)) :
    Wake s e (rest ++ more) y := by
  cases hw with
  | told =>
    cases hqueue
    cases hr : s.replaces e with
    | false =>
      obtain ⟨hasks, n, rfl, -⟩ := handle_asks hr h
      exact .updates n hasks
    | true =>
      obtain ⟨hasks, n, rfl, -⟩ := handle_of_replaces hr h
      exact .reset n hasks
  | reset n hreset =>
    cases hqueue
    obtain ⟨hasks, m, rfl, -⟩ := handle_asks (replaces_of_ne Event.noConfusion) h
    rw [List.replicate_append_replicate]
    exact .updates _ (hreset.trans hasks)
  | updates n hupdates =>
    cases n with
    | zero => cases hqueue
    | succ n =>
      cases hqueue
      obtain ⟨hasks, m, rfl, -⟩ := handle_asks (replaces_of_ne Event.noConfusion) h
      rw [begun_update] at hasks
      rw [List.replicate_append_replicate]
      exact .updates _ (hupdates.trans hasks)

/-- **A dispatch is what its event changes by itself, and requests from there on.** -/
theorem dispatch_asks (h : s.dispatch e = .ok s') : Asks (s.begun e) s' := by
  have hwake : Wake s e [] s' := dispatch_induction (fun h hw => hw.handle rfl h) .told h
  generalize hqueue : ([] : List Event) = queue at hwake
  cases hwake with
  | told => cases hqueue
  | reset n _ => cases hqueue
  | updates n hasks => exact hasks

end Session

end Scrollback
