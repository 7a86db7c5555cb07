import Scrollback.Proofs.Session.Dismissal
/-!
# The queue of a dispatch

A dispatch is a loop over a queue: it takes the first event, has the window handle it, carries out
the commands that come back, and puts behind the other events what follows from them. Here the loop
is told without any bound, as the runs of it that end. Every event has just one such run, and that is
short. All commands on the way are carried out, in their order, but for the pages that are asked for
along with a jump that replaces the loaded part.

## Main definitions

* `Session.Clears` — the loop over a queue ends.
* `Session.executeEach` — commands are carried out, every one of them.
* `Session.Completes` — what becomes of the commands of one event.

## Main statements

* `Session.clears_handleAll` — a bound that is large enough does not show.
* `Session.handle_completes` — what becomes of the commands of any event.
* `Session.dispatch_clears` — a dispatch ends after three events, and leaves no command behind.
-/

namespace Scrollback.Session

variable {s s' x y : Session} {e : Event} {queue more : List Event} {c : Command}
  {cs : List Command} {trail trail' : List (Session × Event)} {result result' : Checked Session}

/-! ## The loop -/

/-- The loop over a queue ends with a result, after it has handled the given events, each in the
session that it comes upon. -/
inductive Clears : List Event → Session → List (Session × Event) → Checked Session → Prop where
  | done (s : Session) : Clears [] s [] (.ok s)
  | fault {e : Event} {rest : List Event} {s : Session} {f : Fault} :
      s.handle e = .error f → Clears (e :: rest) s [(s, e)] (.error f)
  | next {e : Event} {rest more : List Event} {s s' : Session} {trail : List (Session × Event)}
      {result : Checked Session} :
      s.handle e = .ok (s', more) → Clears (rest ++ more) s' trail result →
        Clears (e :: rest) s ((s, e) :: trail) result

/-- The loop has one way to go. -/
theorem Clears.unique (h : Clears queue s trail result) (h' : Clears queue s trail' result') :
    trail' = trail ∧ result' = result := by
  induction h generalizing trail' with
  | done =>
    cases h'
    exact ⟨rfl, rfl⟩
  | fault hfault =>
    cases h' with
    | fault hfault' =>
      rw [hfault] at hfault'
      cases hfault'
      exact ⟨rfl, rfl⟩
    | next hhandle' =>
      rw [hfault] at hhandle'
      cases hhandle'
  | next hhandle _ ih =>
    cases h' with
    | fault hfault' =>
      rw [hhandle] at hfault'
      cases hfault'
    | next hhandle' hrest' =>
      rw [hhandle] at hhandle'
      cases hhandle'
      obtain ⟨rfl, rfl⟩ := ih hrest'
      exact ⟨rfl, rfl⟩

/-- The loop handles no more events than the queue comes to. -/
theorem Clears.length_le (h : Clears queue s trail result) : trail.length ≤ load queue s := by
  induction h with
  | done => exact Nat.zero_le _
  | fault =>
    rw [load_cons, List.length_singleton]
    omega
  | @next e rest more s s' trail result hhandle _ ih =>
    have hless := load_lt_of_handle rest hhandle
    rw [List.length_cons]
    omega

/-- **A bound on the number of events does not show**, if it is as large as what the queue comes
to. -/
theorem clears_handleAll {fuel : Nat} (hfuel : load queue s ≤ fuel) :
    Clears queue s (handledWithin fuel queue s) (handleAll fuel queue s) := by
  induction fuel generalizing queue s with
  | zero =>
    cases queue with
    | nil => exact .done s
    | cons e rest =>
      rw [load_cons] at hfuel
      omega
  | succ fuel ih =>
    cases queue with
    | nil => exact .done s
    | cons e rest =>
      rw [handleAll_succ]
      cases hhandle : s.handle e with
      | error f =>
        simp only [handledWithin, hhandle]
        exact .fault hhandle
      | ok p =>
        obtain ⟨s', more⟩ := p
        have hless := load_lt_of_handle rest hhandle
        simp only [handledWithin, hhandle]
        exact .next hhandle (ih (by omega))

/-! ## Commands -/

/-- Carries out commands, every one of them. -/
def executeEach (s : Session) : List Command → Session × List Event
  | [] => (s, [])
  | c :: rest =>
    let (s, followUp) := s.execute c
    let (s, more) := s.executeEach rest
    (s, followUp.toList ++ more)

theorem executeEach_cons (s : Session) (c : Command) (rest : List Command) :
    s.executeEach (c :: rest) = (((s.execute c).1.executeEach rest).1,
      (s.execute c).2.toList ++ ((s.execute c).1.executeEach rest).2) := rfl

/-- The commands that are carried out are all that is done. -/
theorem executeAll_eq_executeEach (s : Session) (replaced : Bool) (cs : List Command) :
    s.executeAll replaced cs = s.executeEach ((s.carriedAll replaced cs).map Prod.snd) := by
  induction cs generalizing s replaced with
  | nil => rfl
  | cons c rest ih =>
    by_cases hdrop : (replaced && c.isFetch) = true
    · rw [executeAll, if_pos hdrop, carriedAll, if_pos hdrop, ih]
    · rw [Bool.not_eq_true] at hdrop
      rw [executeAll_cons _ _ _ _ hdrop, carriedAll_cons _ _ _ _ hdrop, List.map_cons,
        executeEach_cons, ih]

/-- A page is asked for by each of its requests that is carried out. -/
theorem executeEach_pageTasks (s : Session) (cs : List Command) (d : Direction) :
    (s.executeEach cs).1.pageTasks d = s.pageTasks d + cs.count (.fetch d) := by
  induction cs generalizing s with
  | nil => rfl
  | cons c rest ih =>
    have hfirst : (s.execute c).1.pageTasks d = s.pageTasks d + if c = .fetch d then 1 else 0 := by
      by_cases hjump : c = .getMostRecent
      · subst hjump
        rw [execute]
        split <;> rfl
      · exact (execute_carries hjump).pageTasks d
    rw [executeEach_cons, ih, hfirst, List.count_cons]
    simp only [beq_iff_eq]
    omega

/-- A jump among the commands has the loaded part replaced when it is carried out. -/
def exchanges (s : Session) (cs : List Command) : Prop :=
  ∃ x, (x, .getMostRecent) ∈ s.carriedAll false cs ∧ x.feed.jumpToLatest.2 = .replaced

theorem not_exchanges (hjump : .getMostRecent ∉ cs) : ¬ s.exchanges cs := by
  rintro ⟨x, hx, -⟩
  exact hjump (frame_of_mem_carriedAll hjump hx).1

theorem exchanges_jump_iff (hjump : .getMostRecent ∉ cs) :
    s.exchanges (.getMostRecent :: cs) ↔ s.feed.jumpToLatest.2 = .replaced := by
  constructor
  · rintro ⟨x, hx, hpage⟩
    rw [carriedAll_cons _ _ _ _ rfl] at hx
    rcases List.mem_cons.1 hx with heq | hx
    · cases heq
      exact hpage
    · exact absurd (frame_of_mem_carriedAll hjump hx).1 hjump
  · intro hpage
    refine ⟨s, ?_, hpage⟩
    rw [carriedAll_cons _ _ _ _ rfl]
    exact List.mem_cons_self ..

/-- A jump is carried out, and after it all commands but for the pages that are out of date. -/
theorem map_snd_carriedAll_jump (hjump : .getMostRecent ∉ cs) :
    (s.carriedAll false (.getMostRecent :: cs)).map Prod.snd = .getMostRecent ::
      cs.filter fun c => !(decide (s.feed.jumpToLatest.2 = .replaced) && c.isFetch) := by
  have hreset : ((s.execute .getMostRecent).2 == some .reset) =
      decide (s.feed.jumpToLatest.2 = .replaced) := by
    cases hpage : s.feed.jumpToLatest.2 with
    | replaced => rw [execute_of_replaced hpage]; rfl
    | extended added =>
      rw [execute_of_extended hpage]
      split <;> rfl
  rw [carriedAll_cons _ _ _ _ rfl, List.map_cons, map_snd_carriedAll _ hjump, Bool.false_or, hreset]

/-- What becomes of the commands of one event. -/
structure Completes (s : Session) (cs : List Command) (s' : Session) (more : List Event) :
    Prop where
  /-- The session afterwards and the events that follow are what the commands come to that are
  carried out. -/
  result : s.executeEach ((s.carriedAll false cs).map Prod.snd) = (s', more)
  /-- Each request that is carried out has a page under way. -/
  pages : ∀ d, s'.pageTasks d =
    s.pageTasks d + ((s.carriedAll false cs).map Prod.snd).count (.fetch d)
  /-- All commands are carried out, in their order. -/
  all : ¬ s.exchanges cs → (s.carriedAll false cs).map Prod.snd = cs
  /-- All but the requests for pages are, if the loaded part is replaced. -/
  others : s.exchanges cs →
    (s.carriedAll false cs).map Prod.snd = cs.filter fun c => !c.isFetch

/-- Commands are completed if at most the first of them is a jump. -/
theorem executeAll_completes
    (hcs : .getMostRecent ∉ cs ∨ ∃ rest, cs = .getMostRecent :: rest ∧ .getMostRecent ∉ rest)
    (h : s.executeAll false cs = (s', more)) : s.Completes cs s' more := by
  have hresult := s.executeAll_eq_executeEach false cs
  rw [h] at hresult
  refine
    { result := hresult.symm
      pages := fun d => by rw [← executeEach_pageTasks, ← hresult]
      all := fun hkept => ?_
      others := fun hexchanged => ?_ }
  · rcases hcs with hjump | ⟨rest, rfl, hjump⟩
    · simpa using map_snd_carriedAll (s := s) false hjump
    · rw [exchanges_jump_iff hjump] at hkept
      simpa [hkept] using map_snd_carriedAll_jump (s := s) hjump
  · rcases hcs with hjump | ⟨rest, rfl, hjump⟩
    · exact absurd hexchanged (not_exchanges hjump)
    · rw [exchanges_jump_iff hjump] at hexchanged
      rw [map_snd_carriedAll_jump hjump, List.filter_cons_of_pos rfl]
      simp only [hexchanged, decide_true, Bool.true_and]

/-- A window asks for the newest page first, if at all, and then only once. -/
theorem commands_cases {st : WindowState} {inp : Inputs} {t : Transition}
    (ht : step st e inp = .ok t) :
    .getMostRecent ∉ t.effects.filterMap Effect.command? ∨
      ∃ rest, t.effects.filterMap Effect.command? = .getMostRecent :: rest ∧
        .getMostRecent ∉ rest := by
  cases haccepts : st.accepts e with
  | false =>
    rw [step_of_not_accepts haccepts ht]
    exact .inl List.not_mem_nil
  | true =>
    by_cases hjump : e = .jumpToLatest
    · subst hjump
      obtain ⟨rest, hcommands, hrest, -⟩ := exists_jump_commands haccepts ht
      exact .inr ⟨rest, hcommands, hrest⟩
    · exact .inl (getMostRecent_not_mem_commands hjump haccepts ht)

/-- **What becomes of the commands of any event.** -/
theorem handle_completes (h : s.handle e = .ok (s', more)) :
    ∃ t, step s.window.state e (s.window.inputs s.graph s.unread s.now) = .ok t ∧
      (s.moved t).Completes (t.effects.filterMap Effect.command?) s' more := by
  obtain ⟨t, ht, hexec⟩ := handle_eq_ok.1 h
  exact ⟨t, ht, executeAll_completes (commands_cases ht) hexec⟩

/-! ## Dispatches -/

/-- **A dispatch ends soon and leaves no command behind.** Whatever a session is like, and whatever
it is told, the loop over the queue ends in one way, after three events at most. For each of these
the window makes one transition, and the session carries out all commands that come of it, in their
order; but if a jump among them has the loaded part replaced, all others are carried out but none
that asks for a page. -/
theorem dispatch_clears (s : Session) (e : Event) :
    ∃ trail, Clears [e] s trail (s.dispatch e) ∧
      (∀ trail' result, Clears [e] s trail' result → trail' = trail ∧ result = s.dispatch e) ∧
      trail.length ≤ 3 ∧
      ∀ p ∈ trail, ∀ s' more, p.1.handle p.2 = .ok (s', more) →
        ∃ t, step p.1.window.state p.2
            (p.1.window.inputs p.1.graph p.1.unread p.1.now) = .ok t ∧
          (p.1.moved t).Completes (t.effects.filterMap Effect.command?) s' more := by
  have hclears : Clears [e] s (handledWithin wake [e] s) (s.dispatch e) :=
    clears_handleAll (load_singleton_le e s)
  refine ⟨_, hclears, fun trail' result h => hclears.unique h, ?_, ?_⟩
  · exact Nat.le_trans hclears.length_le (load_singleton_le_three e s)
  · intro p _ s' more h
    exact handle_completes h

/-- A reader who jumps away from a page around an old message, with something unread, has the window
told of three events. -/
example : (trial { messages := 9, pageSize := 2, scrollTo := some .first, unread := 1 }
      [.mount 10]).map (fun r => (handledWithin wake [.jumpToLatest] r.2).map Prod.snd) =
    some [.jumpToLatest, .reset, .update] := by
  decide +kernel

end Scrollback.Session
