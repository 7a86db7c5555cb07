import Scrollback.Proofs.Session.UpToDate
import Scrollback.Proofs.Window.Coverage
/-!
# Pages are asked for where the screen comes near the loaded ends

Whatever moves the view or changes what is loaded has the window look at the loaded ends, and where
the mounted range comes near one of them a page is asked for. So it stays until a request fails. But
a list that is drawn on more rows than before mounts more of the older messages, and nothing is told
to the window of that. It does not ask for an older page then until something else has it look.

## Main definitions

* `Session.lookedRows` — how many rows the list had when the window last looked.
* `Session.Attends` — the range that was mounted then is covered, up to the events in a queue.

## Main statements

* `Session.Attends.handle` — one event keeps the range covered.
* `Session.mounted_covered` — what is mounted is covered in every run, as far as the list has not
  grown since.
-/

namespace Scrollback

namespace Session

variable {s s' x y a b : Session} {m : Move} {e : Event} {es queue queue' more : List Event}
  {h : List (Session × Move)} {rows n : Nat} {target : MessageIndex}

/-! ## When the window looked -/

/-- An event has the window look at the loaded ends. -/
def looksAt (s : Session) (e : Event) : Bool :=
  s.window.state.accepts e && s.window.state.examines (s.window.inputs s.graph s.unread s.now) e

/-- The rows at the last look, after one more event. -/
def noteRows (rows : Nat) (p : Session × Event) : Nat :=
  if p.1.looksAt p.2 then p.1.window.viewport.visible else rows

/-- How many rows the list had when the window last looked at the loaded ends; none if it never
did. -/
def lookedRows : List (Session × Move) → Nat
  | [] => 0
  | (s, m) :: h => (s.handledIn m).foldl noteRows (lookedRows h)

/-- The move has a page request answered by a failure. -/
def refuses (s : Session) (m : Move) : Bool :=
  match s.answer? m with
  | some (_, .ok r) => !r.isLoaded
  | _ => false

/-- The move has a page request fail: it is answered by a failure, or ends without an answer. -/
def fails (s : Session) (m : Move) : Bool :=
  match s.answer? m with
  | some (_, .ok r) => !r.isLoaded
  | some (_, .error _) => true
  | none => false

/-- Where no request fails, none is answered by a failure. -/
theorem refuses_of_fails (h : s.fails m = false) : s.refuses m = false := by
  rw [fails] at h
  rw [refuses]
  split at h
  · next heq => rwa [heq]
  · cases h
  · next heq => rw [heq]

/-- The window is on screen and knows how many messages are loaded. -/
structure Seen (s : Session) : Prop where
  mounted : s.window.state.isMounted = true
  size : s.window.state.prevSize = s.graph.size

/-- The range that is mounted on so many rows is covered, and the target has been gone to if it is
loaded; either may fail while an event is in the queue that has the window look. Results that wait
are of pages that were loaded, and a scroll comes alone and tells where the view stands. -/
structure Attends (rows : Nat) (queue : List Event) (s : Session) : Prop where
  tracks : Tracks queue s
  results : ∀ r ∈ s.results, r.2.isLoaded = true
  settled : ∀ d r, .settled d r ∈ queue → r.isLoaded = true
  scroll : ∀ offset, .scroll offset ∈ queue →
    queue = [.scroll offset] ∧ s.window.viewport.offset s.graph = offset
  arrived : s.Seen → .reset ∉ queue → ∀ target, s.window.target = some target →
    s.graph.contains target = true → s.window.state.targetReached = true
  covers : s.Seen → .reset ∉ queue → (∀ offset, .scroll offset ∉ queue) → s.graph.size ≠ 0 →
    s.window.state.Covers s.window.policy s.graph.size (s.window.viewport.offset s.graph) rows

theorem Attends.perm (hs : Attends rows queue s) (hperm : queue.Perm queue') :
    Attends rows queue' s := by
  have hmem (e : Event) : e ∈ queue' ↔ e ∈ queue := hperm.mem_iff.symm
  constructor
  · exact hs.tracks.mono fun e he => (hmem e).2 he
  · exact hs.results
  · exact fun d r hr => hs.settled d r ((hmem _).1 hr)
  · intro offset hoffset
    obtain ⟨rfl, hview⟩ := hs.scroll offset ((hmem _).1 hoffset)
    exact ⟨List.perm_singleton.1 hperm.symm, hview⟩
  · rw [hmem]
    exact hs.arrived
  · simp only [hmem]
    exact hs.covers

/-! ## One event -/

/-- An event that leaves a window which knows of all that is loaded has brought nothing in. -/
theorem Attends.handle_keys (hx : Attends rows (e :: queue) x) (hh : x.handle e = .ok (y, more))
    (hy : y.Seen) (hreset : .reset ∉ more ++ queue) : y.graph.keys = x.graph.keys := by
  rw [List.mem_append, not_or] at hreset
  have hgrows := (handle_grows hh).resolve_right hreset.1
  refine hgrows.keys_loaded_eq hx.tracks.exists_spans ?_
  have hall : y.feed.loaded.size = y.window.state.prevSize := hy.size.symm
  obtain ⟨t, ht, hwindow, -⟩ := handle_transition hh
  rw [hall, hwindow]
  rcases step_prevSize (accepts_of_handle hh hy.mounted) ht with hnow | ⟨hne, hmount, hold⟩
  · exact Nat.le_of_eq hnow
  · rcases hx.tracks.size (isMounted_of_handle hh hmount hy.mounted) with hseen | hmem
    · exact hold.trans_le hseen
    · exact absurd ((List.mem_cons.1 hmem).resolve_left (Ne.symm hne)) hreset.2

/-- What a window did not look at it knew of before. -/
theorem seen_of_handle (hh : x.handle e = .ok (y, more)) (hy : y.Seen)
    (hkeys : y.graph.keys = x.graph.keys) (hupdate : e = .update → x.looksAt e = false)
    (hreset : e ≠ .reset) (hmount : e = .mount → x.window.state.scroll ≠ .initializing) :
    x.Seen := by
  refine ⟨isMounted_of_handle hh hmount hy.mounted, ?_⟩
  by_cases he : e = .update
  · have hlook := hupdate he
    rw [looksAt, accepts_of_handle hh hy.mounted, Bool.true_and, he] at hlook
    exact (Decidable.not_not.1 (of_decide_eq_false hlook)).symm
  · obtain ⟨t, ht, hwindow, -⟩ := handle_transition hh
    have hcounts := (step_counts_of_ne he hreset hmount ht).2
    have hsize := hy.size
    rw [hwindow, Graph.size_congr hkeys] at hsize
    exact hcounts.symm.trans hsize

/-- A target that is loaded has been gone to, unless the window is still to look. -/
theorem Attends.handle_arrived (hx : Attends rows (e :: queue) x)
    (hh : x.handle e = .ok (y, more)) (hy : y.Seen) (hreset : .reset ∉ more ++ queue)
    (htarget : y.window.target = some target) (hloaded : y.graph.contains target = true) :
    y.window.state.targetReached = true := by
  have hkeys := hx.handle_keys hh hy hreset
  obtain ⟨t, ht, hwindow, -⟩ := handle_transition hh
  have haccepts := accepts_of_handle hh hy.mounted
  rw [Graph.contains_congr hkeys] at hloaded
  rw [hwindow] at htarget ⊢
  refine step_arrived haccepts ht htarget hloaded ?_
  by_cases hlooks : e = .update ∨ e = .reset ∨
      e = .mount ∧ x.window.state.scroll = .initializing
  · exact .inr hlooks
  · obtain ⟨hupdate, hne, hmount⟩ : e ≠ .update ∧ e ≠ .reset ∧
        (e = .mount → x.window.state.scroll ≠ .initializing) := by
      simpa only [not_or, not_and] using hlooks
    have hseen := seen_of_handle hh hy hkeys (fun heq => absurd heq hupdate) hne hmount
    refine .inl (hx.arrived hseen ?_ target htarget hloaded)
    rw [List.mem_cons, not_or]
    exact ⟨hne.symm, fun hmem => hreset (List.mem_append_right _ hmem)⟩

/-- An event that does not make the window look finds it knowing of all that is loaded, and tells of
no failure. -/
theorem Attends.unexamined (hx : Attends rows (e :: queue) x) (hh : x.handle e = .ok (y, more))
    (hy : y.Seen) (hreset : .reset ∉ more ++ queue)
    (hexamines : x.window.state.examines (x.window.inputs x.graph x.unread x.now) e = false) :
    x.Seen ∧ .reset ∉ e :: queue ∧ ∀ d error, e ≠ .settled d (.failed error) := by
  have hne : e ≠ .reset := by
    rintro rfl
    cases hexamines
  have hmount : e = .mount → x.window.state.scroll ≠ .initializing := by
    rintro rfl
    exact of_decide_eq_false hexamines
  refine ⟨?_, ?_, ?_⟩
  · exact seen_of_handle hh hy (hx.handle_keys hh hy hreset)
      (fun _ => by rw [looksAt, hexamines, Bool.and_false]) hne hmount
  · rw [List.mem_cons, not_or]
    exact ⟨hne.symm, fun hmem => hreset (List.mem_append_right _ hmem)⟩
  · rintro d error rfl
    cases hx.settled d _ (List.mem_cons_self ..)

/-- **One event keeps the range covered**: if the window looks, then at the height that it finds. -/
theorem Attends.handle_covers (hx : Attends rows (e :: queue) x)
    (hh : x.handle e = .ok (y, more)) (hy : y.Seen) (hreset : .reset ∉ more ++ queue)
    (hscroll : ∀ offset, .scroll offset ∉ more ++ queue) (hsize : y.graph.size ≠ 0) :
    y.window.state.Covers y.window.policy y.graph.size (y.window.viewport.offset y.graph)
      (noteRows rows (x, e)) := by
  have hkeys := hx.handle_keys hh hy hreset
  obtain ⟨t, ht, hwindow, -⟩ := handle_transition hh
  have haccepts := accepts_of_handle hh hy.mounted
  rw [Graph.size_congr hkeys] at hsize
  rw [Graph.size_congr hkeys, Viewport.offset_congr hkeys, hwindow, noteRows, looksAt, haccepts,
    Bool.true_and]
  cases hexamines : x.window.state.examines (x.window.inputs x.graph x.unread x.now) e with
  | true =>
    refine step_covers haccepts hexamines rfl rfl ?_ hsize ht
    rintro offset rfl
    exact (hx.scroll offset (List.mem_cons_self ..)).2
  | false =>
    obtain ⟨hseen, hreset', hfailed⟩ := hx.unexamined hh hy hreset hexamines
    have hscroll' : ∀ offset, .scroll offset ∉ e :: queue := by
      intro offset hmem
      rcases List.mem_cons.1 hmem with rfl | hmem
      · cases hexamines
      · exact hscroll offset (List.mem_append_right _ hmem)
    have hview := step_view (v := x.window.viewport) haccepts hexamines
      (hx.arrived hseen hreset') ht
    have hcovers := hx.covers hseen hreset' hscroll' hsize
    have hsame : (x.moved t).window.viewport = x.window.viewport := hview
    rw [hsame]
    exact hcovers.of_gates fun d hgate => step_ne_idle haccepts hexamines hfailed ht hgate

theorem Attends.handle (hx : Attends rows (e :: queue) x) (hh : x.handle e = .ok (y, more)) :
    Attends (noteRows rows (x, e)) (more ++ queue) y where
  tracks := hx.tracks.handle hh
  results := handle_results hh ▸ hx.results
  settled := fun d r hr => by
    rcases List.mem_append.1 hr with hmore | hqueue
    · rcases (handle_load hh).2 _ hmore with heq | heq <;> cases heq
    · exact hx.settled d r (List.mem_cons_of_mem _ hqueue)
  scroll := fun offset hoffset => by
    rcases List.mem_append.1 hoffset with hmore | hqueue
    · rcases (handle_load hh).2 _ hmore with heq | heq <;> cases heq
    · obtain ⟨heq, -⟩ := hx.scroll offset (List.mem_cons_of_mem _ hqueue)
      rw [(List.cons.inj heq).2] at hqueue
      cases hqueue
  arrived := fun hy hreset _ htarget hloaded => hx.handle_arrived hh hy hreset htarget hloaded
  covers := fun hy hreset hscroll hsize => hx.handle_covers hh hy hreset hscroll hsize

/-! ## Moves -/

theorem toldBy_anchor {action : Action} (h : s.toldBy action = some (a, es)) :
    es = [.scroll (a.window.viewport.offset a.graph)] ∨
      (∀ offset, .scroll offset ∉ es) ∧ a.window.viewport = s.window.viewport := by
  unfold toldBy at h
  split at h
  case h_2 | h_3 =>
    cases h
    exact .inl rfl
  case h_6 => split at h <;> cases h <;> exact .inr ⟨by simp, rfl⟩
  case h_7 =>
    obtain ⟨_, -, heq⟩ := Option.map_eq_some_iff.1 h
    cases heq
    exact .inr ⟨by simp, rfl⟩
  all_goals
    cases h
    exact .inr ⟨by simp, rfl⟩

/-- By itself a move takes the view elsewhere only if the window is told where. -/
theorem told_anchor (h : s.told m = some (a, es)) :
    es = [.scroll (a.window.viewport.offset a.graph)] ∨
      (∀ offset, .scroll offset ∉ es) ∧
        a.window.viewport.anchor = s.window.viewport.anchor := by
  cases m with
  | input i =>
    refine (toldBy_anchor h).imp_right ?_
    rintro ⟨hscroll, hview⟩
    exact ⟨hscroll, by rw [hview]⟩
  | perform n =>
    obtain ⟨t, -, heq⟩ := Option.map_eq_some_iff.1 h
    cases heq
    exact .inr ⟨by simp, by rw [perform_window]⟩
  | hearResult =>
    rw [told] at h
    split at h
    · cases h
      rw [forgiven]
      split <;> exact .inr ⟨by simp, rfl⟩
    · cases h
  | hearNews =>
    rw [told] at h
    split at h
    · obtain ⟨_, -, heq⟩ := Option.map_eq_some_iff.1 h
      cases heq
      exact .inr ⟨by simp, rfl⟩
    · cases h
      exact .inr ⟨by simp, rfl⟩
    · cases h
  | _ =>
    cases h
    exact .inr ⟨by simp, rfl⟩

/-- What the reader does leaves the results that wait, and the window is told of none. -/
theorem toldBy_results {action : Action} (h : s.toldBy action = some (a, es)) :
    a.results = s.results ∧ ∀ d r, .settled d r ∉ es := by
  unfold toldBy at h
  split at h
  case h_6 => split at h <;> cases h <;> exact ⟨rfl, by simp⟩
  case h_7 =>
    obtain ⟨_, -, heq⟩ := Option.map_eq_some_iff.1 h
    cases heq
    exact ⟨rfl, by simp⟩
  all_goals
    cases h
    exact ⟨rfl, by simp [mapWindow]⟩

/-- Work that is done leaves results of pages that were loaded, if no answer is a failure. -/
theorem perform_loaded (hs : s.move (.perform n) = some a)
    (hanswer : s.refuses (.perform n) = false)
    (hresults : ∀ r ∈ s.results, r.2.isLoaded = true) : ∀ r ∈ a.results, r.2.isLoaded = true := by
  rcases perform_cases hs with ⟨-, hpasses⟩ | ⟨d, hsettled, hanswers⟩
  · rw [hpasses.results]
    exact hresults
  · rw [hanswers.results]
    refine List.forall_mem_append.2 ⟨hresults, ?_⟩
    cases hsettle : (s.feed.settle d).2 with
    | error fault => simp [Except.toOption]
    | ok r =>
      rw [refuses, hsettled, hsettle] at hanswer
      simpa [Except.toOption] using hanswer

/-- Where no answer is a failure, none waits to be heard and the window is told of none. -/
theorem told_loaded (h : s.told m = some (a, es))
    (hanswer : s.refuses m = false)
    (hresults : ∀ r ∈ s.results, r.2.isLoaded = true) :
    (∀ r ∈ a.results, r.2.isLoaded = true) ∧ ∀ d r, .settled d r ∈ es → r.isLoaded = true := by
  cases m with
  | input i =>
    obtain ⟨hsame, hnone⟩ := toldBy_results h
    exact ⟨hsame ▸ hresults, fun d r hmem => absurd hmem (hnone d r)⟩
  | perform n =>
    obtain ⟨t, ht, heq⟩ := Option.map_eq_some_iff.1 h
    cases heq
    refine ⟨perform_loaded ?_ hanswer hresults, by simp⟩
    rw [move, ht, Option.map_some]
  | hearResult =>
    rw [told] at h
    split at h
    · next d r results heq =>
      cases h
      obtain ⟨hr, hrest⟩ := List.forall_mem_cons.1 (heq ▸ hresults)
      refine ⟨?_, by simpa using hr⟩
      rw [forgiven]
      split <;> exact hrest
    · cases h
  | hearNews =>
    rw [told] at h
    split at h
    · obtain ⟨_, -, heq⟩ := Option.map_eq_some_iff.1 h
      cases heq
      exact ⟨hresults, by simp⟩
    · cases h
      exact ⟨hresults, by simp⟩
    · cases h
  | _ =>
    cases h
    exact ⟨hresults, by simp⟩

/-- What a move brings in by itself, the window will look at. -/
theorem Attends.told_keys (hs : Attends rows [] s) (htold : s.told m = some (a, es))
    (ha : a.Seen) : a.graph.keys = s.graph.keys ∧ s.Seen := by
  have hstate := told_state htold
  have hmounted : s.window.state.isMounted = true := hstate ▸ ha.mounted
  have hknown := (hs.tracks.size hmounted).resolve_right List.not_mem_nil
  have hall : s.window.state.prevSize = a.graph.size := hstate ▸ ha.size
  have hkeys : a.graph.keys = s.graph.keys :=
    (told_change htold).grows.keys_loaded_eq hs.tracks.exists_spans (hall ▸ hknown)
  exact ⟨hkeys, hmounted, hall.trans (Graph.size_congr hkeys)⟩

theorem Attends.told (hs : Attends rows [] s) (htold : s.told m = some (a, es))
    (hanswer : s.refuses m = false) : Attends rows es a := by
  have hstate := told_state htold
  obtain ⟨viewport, focused, hwindow⟩ := told_window htold
  obtain ⟨hresults, hsettled⟩ := told_loaded htold hanswer hs.results
  constructor
  · exact hs.tracks.change (told_change htold) hstate
  · exact hresults
  · exact hsettled
  · intro offset hmem
    rcases told_anchor htold with hscroll | ⟨hnone, -⟩
    · rw [hscroll] at hmem ⊢
      cases List.mem_singleton.1 hmem
      exact ⟨rfl, rfl⟩
    · exact absurd hmem (hnone offset)
  · intro ha _ target htarget hloaded
    obtain ⟨hkeys, hseen⟩ := hs.told_keys htold ha
    rw [Graph.contains_congr hkeys] at hloaded
    rw [hwindow] at htarget
    rw [hstate]
    exact hs.arrived hseen List.not_mem_nil target htarget hloaded
  · intro ha _ hscroll hsize
    obtain ⟨hkeys, hseen⟩ := hs.told_keys htold ha
    rw [Graph.size_congr hkeys] at hsize
    have hcovers := hs.covers hseen List.not_mem_nil (fun _ => List.not_mem_nil) hsize
    have hanchor : a.window.viewport.anchor = s.window.viewport.anchor := by
      rcases told_anchor htold with heq | ⟨-, hanchor⟩
      · exact absurd (heq ▸ List.mem_cons_self ..) (hscroll (a.window.viewport.offset a.graph))
      · exact hanchor
    have hoffset : a.window.viewport.offset a.graph = s.window.viewport.offset s.graph := by
      rw [Viewport.offset_congr hkeys, Viewport.offset, hanchor, Viewport.offset]
    have hpolicy : a.window.policy = s.window.policy := by rw [hwindow]
    rw [hstate, hpolicy, Graph.size_congr hkeys, hoffset]
    exact hcovers

theorem Attends.tell (ha : Attends rows es a) (hb : a.tell es = .ok b) :
    Attends ((a.handledTelling es).foldl noteRows rows) [] b := by
  refine tell_trace (P := fun seen queue x => Attends (seen.foldl noteRows rows) queue x) [] ?_ ?_
    ha hb
  · intro seen queue queue' x hperm hx
    exact hx.perm hperm
  · intro seen e queue x y more hh hx
    rw [List.foldl_append]
    exact hx.handle hh

/-- **A move keeps the range covered**, at the height that the window finds when it looks last. -/
theorem Attends.move (hs : Attends (lookedRows h) [] s) (hm : s.move m = some s')
    (hanswer : s.refuses m = false) :
    Attends (lookedRows ((s, m) :: h)) [] s' := by
  obtain ⟨a, es, b, htold, htell, rfl⟩ := exists_told hm
  obtain ⟨tasks, started, heq⟩ := b.exists_settleMove_eq m
  have htracks := hs.tracks.move hm
  have hb := (hs.told htold hanswer).tell htell
  rw [lookedRows, handledIn, htold]
  rw [heq] at htracks ⊢
  exact
    { tracks := htracks
      results := hb.results
      settled := hb.settled
      scroll := hb.scroll
      arrived := fun hseen => hb.arrived ⟨hseen.mounted, hseen.size⟩
      covers := fun hseen => hb.covers ⟨hseen.mounted, hseen.size⟩ }

theorem Opened.attends (ho : Opened s) : Attends 0 [] s := by
  have hnot : ¬ s.Seen := by
    intro hseen
    have hmounted := hseen.mounted
    rw [ho.state] at hmounted
    cases hmounted
  refine ⟨ho.tracks, ?_, ?_, ?_, fun hseen => absurd hseen hnot, fun hseen => absurd hseen hnot⟩
  · rw [ho.results]
    simp
  · simp
  · simp

/-! ## Runs -/

theorem Run.attends (hrun : Run h s) (hanswers : ∀ p ∈ h, p.1.refuses p.2 = false) :
    Attends (lookedRows h) [] s := by
  induction hrun with
  | opened ho => exact ho.attends
  | move _ hm ih =>
    obtain ⟨hlast, hbefore⟩ := List.forall_mem_cons.1 hanswers
    exact (ih hbefore).move hm hlast

/-- **What is mounted is covered.** In every run in which no page request was answered by a failure,
as soon as nothing waits and as long as news is taken: a window that is on screen over loaded
messages waits for newer ones, or knows that there are none, wherever the mounted range comes near
the newest loaded message. It does so likewise where the range comes near the oldest one, unless the
list has more rows than when the window last looked, and the range was far from the oldest message on
as many rows as it had then. -/
theorem mounted_covered (hrun : Run h s) (hanswers : ∀ p ∈ h, p.1.refuses p.2 = false)
    (hmounted : s.window.state.isMounted = true) (hopen : s.closed = false)
    (hresults : s.results = []) (hnews : s.news = []) (hsize : s.graph.size ≠ 0) :
    ∃ range looked, s.window.mounted s.graph = .ok range ∧
      Mounted.around s.graph.size (s.window.viewport.offset s.graph) (lookedRows h)
        s.window.policy.overscan = .ok looked ∧
      (s.graph.size ≤ range.stop + s.window.policy.fetchThreshold → s.gate .newer ≠ .idle) ∧
      (range.start ≤ s.window.policy.fetchThreshold → s.gate .older ≠ .idle ∨
        lookedRows h < s.window.viewport.visible ∧
          s.window.policy.fetchThreshold < looked.start) := by
  have hseen : s.Seen := ⟨hmounted, hrun.prevSize_eq hmounted hopen hresults hnews⟩
  obtain ⟨looked, hlooked, holder, hnewer⟩ := (hrun.attends hanswers).covers hseen
    List.not_mem_nil (fun _ => List.not_mem_nil) hsize
  obtain ⟨range, hrange, hstop, hstart⟩ :=
    Mounted.exists_around_rows hlooked s.window.viewport.visible
  refine ⟨range, looked, hrange, hlooked, hstop ▸ hnewer, fun hnear => ?_⟩
  rcases Nat.lt_or_ge s.window.policy.fetchThreshold looked.start with hfar | hcame
  · -- the range came nearer since, and only more rows can have brought it there
    refine .inr ⟨Nat.lt_of_not_le fun hrows => ?_, hfar⟩
    have hle := hstart hrows
    omega
  · exact .inl (holder hcame)

/-- A short list that is drawn on fewer rows than before still waits for older messages. -/
theorem mounted_covered_lowered : ∃ h s range, Run h s ∧ s.window.mounted s.graph = .ok range ∧
    range.start ≤ s.window.policy.fetchThreshold ∧
      s.window.viewport.visible < lookedRows h ∧ s.gate .older ≠ .idle := by
  obtain ⟨h, s, hrun, hs⟩ := exists_run_of_trial { messages := 9, pageSize := 2 }
    [.mount 10, .resize 4]
    (fun h s => decide ((∀ p ∈ h, p.1.refuses p.2 = false) ∧ s.window.state.isMounted = true ∧
      s.closed = false ∧ s.results = [] ∧ s.news = [] ∧ s.graph.size ≠ 0 ∧
      s.window.viewport.visible < lookedRows h ∧
      s.window.mounted s.graph = .ok ⟨0, 2⟩))
    (by decide +kernel)
  obtain ⟨hanswers, hmounted, hopen, hresults, hnews, hsize, hlower, hrange⟩ :=
    of_decide_eq_true hs
  obtain ⟨range, looked, hrange', -, -, holder⟩ :=
    mounted_covered hrun hanswers hmounted hopen hresults hnews hsize
  have hnear : range.start ≤ s.window.policy.fetchThreshold := by
    rw [hrange] at hrange'
    cases hrange'
    exact Nat.zero_le _
  refine ⟨h, s, range, hrun, hrange', hnear, hlower, (holder hnear).resolve_right ?_⟩
  omega

/-- A frame on twice as many rows as before mounts all that is loaded, and nothing older is asked
for. -/
theorem exists_mounted_uncovered : ∃ h s range, Run h s ∧
    h.head?.map Prod.snd = some (.resize 20) ∧ (∀ p ∈ h, p.1.fails p.2 = false) ∧
      s.window.state.isMounted = true ∧ s.closed = false ∧ s.results = [] ∧ s.news = [] ∧
      s.graph.size ≠ 0 ∧ s.window.mounted s.graph = .ok range ∧
      range.start ≤ s.window.policy.fetchThreshold ∧ s.gate .older = .idle := by
  obtain ⟨h, s, hrun, hs⟩ := exists_run_of_trial { messages := 50, pageSize := 30 }
    [.mount 10, .resize 20]
    (fun h s => decide (h.head?.map Prod.snd = some (.resize 20) ∧
      (∀ p ∈ h, p.1.fails p.2 = false) ∧ s.window.state.isMounted = true ∧
      s.closed = false ∧ s.results = [] ∧ s.news = [] ∧ s.graph.size ≠ 0 ∧
      s.window.mounted s.graph = .ok ⟨0, 30⟩ ∧ 0 ≤ s.window.policy.fetchThreshold ∧
      s.gate .older = .idle))
    (by decide +kernel)
  exact ⟨h, s, ⟨0, 30⟩, hrun, of_decide_eq_true hs⟩

end Session

end Scrollback
