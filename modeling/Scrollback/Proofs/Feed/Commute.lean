import Scrollback.Proofs.Feed.End
import Scrollback.Proofs.Feed.Walk
/-!
# Older pages in any order

Pages of both directions are asked for at a time, and messages come in meanwhile. A page toward
older messages reads the start of the loaded span and moves it; a page toward newer messages and a
new message read the end of the span and move that. So it does not matter which of them comes first.

## Main definitions

* `Feed.inTurn`, `Feed.Commute` — two operations one after the other, and in either order.
* `Feed.SameEnd` — two feeds that differ in where their spans start, and in nothing else.
* `Feed.MindsEnd` — an operation that does the same in two such feeds.

## Main statements

* `Feed.Spans.commute` — an older page commutes with whatever minds the end alone.
* `Feed.older_commutes` — so it does with a newer page, a message that arrives and one that is sent.
* `Feed.Spans.older_past` — it may be put off past anything but a jump to the newest message.
-/

namespace Scrollback.Feed

variable {f f' g : Feed} {a a' b : Nat} {α β : Type} {x : Feed → Checked (Feed × α)}

/-! ## Operations in turn -/

/-- One operation and then another: the feed after both, and what each of them answered. -/
def inTurn (x : Feed → Checked (Feed × α)) (y : Feed → Checked (Feed × β)) (f : Feed) :
    Checked (Feed × α × β) := do
  let (g, r) ← x f
  let (g, s) ← y g
  return (g, r, s)

/-- In either order two operations come to the same feed and answer the same, or fault alike. -/
def Commute (f : Feed) (x : Feed → Checked (Feed × α)) (y : Feed → Checked (Feed × β)) : Prop :=
  inTurn x y f = (inTurn y x f).map fun (g, s, r) => (g, r, s)

theorem inTurn_of_ok {y : Feed → Checked (Feed × β)} {r : α} (h : x f = .ok (g, r)) :
    inTurn x y f = (y g).map fun (g, s) => (g, r, s) := by
  rw [inTurn, h]
  cases hy : y g <;> simp [bind, Except.bind, Except.map, hy, pure, Except.pure]

theorem inTurn_of_error {y : Feed → Checked (Feed × β)} {e : Fault} (h : x f = .error e) :
    inTurn x y f = .error e := by
  rw [inTurn, h]
  rfl

/-! ## Spans with the same end -/

/-- Two feeds differ in where their spans start, and in nothing else. -/
structure SameEnd (f f' : Feed) (a a' b : Nat) : Prop where
  lt : a < b
  lt' : a' < b
  spans : f.Spans a b
  spans' : f'.Spans a' b
  eq : f' = { f with loaded := f'.loaded }

theorem SameEnd.exists_loaded (h : SameEnd f f' a a' b) : ∃ l, f' = { f with loaded := l } :=
  ⟨_, h.eq⟩

theorem SameEnd.config (h : SameEnd f f' a a' b) : f'.config = f.config := by
  rw [h.eq]

/-- Where its span starts is all that is to be known of the second feed. -/
theorem SameEnd.unique (h : SameEnd f g a a' b) (k : SameEnd f g' a a' b) : g = g' := by
  have hentries : g.loaded.entries = g'.loaded.entries := by
    rw [h.spans'.entries, k.spans'.entries, h.eq, k.eq]
  rw [h.eq, k.eq, Graph.ext hentries]

/-- Both spans end with the same message. -/
theorem SameEnd.largest?_eq (h : SameEnd f f' a a' b) : f'.loaded.largest? = f.loaded.largest? := by
  obtain ⟨e, he, hlarge⟩ := h.spans.largest? h.lt
  obtain ⟨e', he', hlarge'⟩ := h.spans'.largest? h.lt'
  obtain ⟨l, rfl⟩ := h.exists_loaded
  rw [he] at he'
  cases he'
  rw [hlarge, hlarge']

/-- A page toward older messages moves the start of the span and does nothing else. -/
theorem Spans.exists_older (h : f.Spans a b) (hab : a < b) :
    ∃ g, f.serve .older = .ok (g, tells f.config.pageSize a) ∧
      SameEnd f g a (a - f.config.pageSize) b := by
  obtain ⟨hspans, hlast⟩ := h.serve_older hab f.serve_older_eq
  refine ⟨_, f.serve_older_eq.trans (by rw [eq_tells hlast]), ?_⟩
  exact ⟨hab, by omega, h, hspans, rfl⟩

/-! ## What minds the end alone -/

/-- Two outcomes of an operation: the same fault, or the same answer and spans that still start
where they did and end alike. -/
inductive Parallel (a a' : Nat) : Checked (Feed × α) → Checked (Feed × α) → Prop
  | fault (e : Fault) : Parallel a a' (.error e) (.error e)
  | answer {g g' : Feed} {b : Nat} (r : α) (h : SameEnd g g' a a' b) :
    Parallel a a' (.ok (g, r)) (.ok (g', r))

/-- What the operation does and answers does not depend on where the span starts. -/
structure MindsEnd (x : Feed → Checked (Feed × α)) : Prop where
  config : ∀ {f g r}, x f = .ok (g, r) → g.config = f.config
  parallel : ∀ {f f' a a' b}, SameEnd f f' a a' b → Parallel a a' (x f) (x f')

theorem mindsEnd_newer : MindsEnd (·.serve .newer) where
  config := fun hf => (serve_frame hf).2
  parallel := by
    intro f f' a a' b h
    have hstart := h.spans.newerStart_eq h.lt
    have hstart' := h.spans'.newerStart_eq h.lt'
    have hserve := f.serve_newer_eq
    have hserve' := f'.serve_newer_eq
    obtain ⟨l, rfl⟩ := h.exists_loaded
    rw [hstart] at hserve
    rw [hstart'] at hserve'
    by_cases hfits : b + f.config.pageSize < Count.bound
    · rw [if_pos hfits] at hserve hserve'
      have hspans := (h.spans.serve_newer h.lt hserve).1
      have hspans' := (h.spans'.serve_newer h.lt' hserve').1
      have hlt := h.lt
      have hlt' := h.lt'
      have hb := h.spans.le_size
      simp only [hserve, hserve']
      exact .answer _ ⟨by omega, by omega, hspans, hspans', rfl⟩
    · rw [if_neg hfits] at hserve hserve'
      simp only [hserve, hserve']
      exact .fault _

/-- The index of a new message follows from the history. -/
theorem append_eq_map (f : Feed) (m : Message) : f.append m =
    (f.remote.largest?.elim (.ok MessageIndex.first) MessageIndex.next).map fun i =>
      ({ f with
          remote := f.remote.insert i (.post m)
          loaded := if f.loaded.largest? = f.remote.largest? then f.loaded.insert i (.post m)
            else f.loaded }, i) := by
  rw [append]
  cases f.remote.largest?.elim (.ok MessageIndex.first) MessageIndex.next <;> rfl

/-- A new message joins both spans or neither. -/
theorem mindsEnd_append (m : Message) : MindsEnd (·.append m) where
  config := fun hf => (grows_append hf).config
  parallel := by
    intro f f' a a' b h
    have hlarge := h.largest?_eq
    have happend := f.append_eq_map m
    have happend' := f'.append_eq_map m
    rw [hlarge] at happend'
    obtain ⟨l, rfl⟩ := h.exists_loaded
    cases hnext : f.remote.largest?.elim (.ok MessageIndex.first) MessageIndex.next with
    | error e =>
      simp only [hnext, Except.map] at happend happend'
      simp only [happend, happend']
      exact .fault e
    | ok i =>
      simp only [hnext, Except.map] at happend happend'
      have hspans := h.spans.append happend
      have hspans' := h.spans'.append happend'
      rw [hlarge] at hspans'
      have hlt := h.lt
      have hlt' := h.lt'
      have hb := h.spans.le_size
      simp only [happend, happend']
      refine .answer i ⟨?_, ?_, hspans, hspans', rfl⟩
      · split <;> omega
      · split <;> omega

theorem mindsEnd_receive (author text : String) (now : Instant) :
    MindsEnd (·.receive author text now) :=
  mindsEnd_append _

/-- The books on sends are kept alike. -/
theorem mindsEnd_send (text : String) (now : Instant) : MindsEnd (·.send text now) where
  config := fun hf => (grows_send hf).config
  parallel := by
    intro f f' a a' b h
    have hparallel :=
      (mindsEnd_append (Message.ofText f.config.identity text now).asPending).parallel h
    obtain ⟨l, rfl⟩ := h.exists_loaded
    simp only [send]
    generalize f.append (Message.ofText f.config.identity text now).asPending = r at hparallel ⊢
    generalize Feed.append { f with loaded := l }
      (Message.ofText f.config.identity text now).asPending = r' at hparallel ⊢
    cases hparallel with
    | fault e => exact .fault e
    | answer i hsame =>
      obtain ⟨l', rfl⟩ := hsame.exists_loaded
      exact .answer _ ⟨hsame.lt, hsame.lt', hsame.spans.congr rfl rfl, hsame.spans'.congr rfl rfl,
        rfl⟩

theorem mindsEnd_acknowledge (sent : PendingSend) :
    MindsEnd fun f => .ok (f.acknowledge sent) where
  config := by
    intro f g r hf
    have hg : (f.acknowledge sent).1 = g := congrArg Prod.fst (Except.ok.inj hf)
    rw [← hg]
    exact (f.grows_acknowledge sent).config
  parallel := by
    intro f f' a a' b h
    have hspans := h.spans.acknowledge sent
    have hspans' := h.spans'.acknowledge sent
    obtain ⟨l, rfl⟩ := h.exists_loaded
    by_cases hmem : sent ∈ f.pending
    · simp only [acknowledge, if_pos hmem] at hspans hspans' ⊢
      exact .answer true ⟨h.lt, h.lt', hspans, hspans', rfl⟩
    · simp only [acknowledge, if_neg hmem]
      exact .answer false ⟨h.lt, h.lt', h.spans, h.spans', rfl⟩

/-! ## In either order -/

/-- **An older page commutes with what minds the end alone.** -/
theorem Spans.commute (h : f.Spans a b) (hab : a < b) (hx : MindsEnd x) :
    f.Commute (·.serve .older) x := by
  obtain ⟨f', hserve, hsame⟩ := h.exists_older hab
  have hparallel := hx.parallel hsame
  rw [Commute, inTurn_of_ok hserve]
  generalize hr : x f = r at hparallel
  generalize x f' = r' at hparallel ⊢
  cases hparallel with
  | fault e =>
    rw [inTurn_of_error hr]
    rfl
  | answer s hstill =>
    obtain ⟨g', hserve', hsame'⟩ := hstill.spans.exists_older hstill.lt
    rw [hx.config hr] at hserve' hsame'
    rw [inTurn_of_ok hr, hserve', hstill.unique hsame']
    rfl

/-- In either order both answer what they would answer alone. -/
theorem Spans.exists_inTurn (h : f.Spans a b) (hab : a < b) (hx : MindsEnd x) {s : α}
    (hs : x f = .ok (g, s)) :
    ∃ k, inTurn (·.serve .older) x f = .ok (k, tells f.config.pageSize a, s) ∧
      inTurn x (·.serve .older) f = .ok (k, s, tells f.config.pageSize a) := by
  have hcommute := h.commute hab hx
  obtain ⟨f', hserve, hsame⟩ := h.exists_older hab
  have hparallel := hx.parallel hsame
  rw [hs] at hparallel
  generalize hr' : x f' = r' at hparallel
  cases hparallel with
  | @answer _ k _ s hstill =>
    have hfirst : inTurn (·.serve .older) x f = .ok (k, tells f.config.pageSize a, s) := by
      rw [inTurn_of_ok (x := (·.serve .older)) hserve, hr']
      rfl
    refine ⟨k, hfirst, ?_⟩
    rw [Commute, hfirst, eq_comm, Checked.map_eq_ok] at hcommute
    obtain ⟨⟨k', s', o⟩, hsecond, heq⟩ := hcommute
    cases heq
    exact hsecond

/-- **Pages of both directions commute, and older pages with new messages.** Where some messages are
loaded, a page toward older messages and one toward newer messages come to the same feed in either
order, and so do an older page and a message that arrives or is sent; if one of them faults, it
faults in either order. As long as the newer page ends at a count, or there is an index for the
message, both answer, and each of them what it would answer alone. -/
theorem older_commutes (h : f.Spans a b) (hab : a < b) (author text : String) (now : Instant) :
    f.Commute (·.serve .older) (·.serve .newer) ∧
    f.Commute (·.serve .older) (·.receive author text now) ∧
    f.Commute (·.serve .older) (·.send text now) ∧
    (b + f.config.pageSize < Count.bound → ∃ g o n,
      inTurn (·.serve .older) (·.serve .newer) f = .ok (g, o, n) ∧
        inTurn (·.serve .newer) (·.serve .older) f = .ok (g, n, o)) ∧
    (f.HasNext → ∃ g o i, inTurn (·.serve .older) (·.receive author text now) f = .ok (g, o, i) ∧
      inTurn (·.receive author text now) (·.serve .older) f = .ok (g, i, o)) ∧
    (f.HasNext → ∃ g o sent, inTurn (·.serve .older) (·.send text now) f = .ok (g, o, sent) ∧
      inTurn (·.send text now) (·.serve .older) f = .ok (g, sent, o)) := by
  refine ⟨h.commute hab mindsEnd_newer, h.commute hab (mindsEnd_receive author text now),
    h.commute hab (mindsEnd_send text now), fun hfits => ?_, fun hnext => ?_, fun hnext => ?_⟩
  · have hserve := f.serve_newer_eq
    rw [h.newerStart_eq hab, if_pos hfits] at hserve
    obtain ⟨k, hk⟩ := h.exists_inTurn hab mindsEnd_newer hserve
    exact ⟨k, _, _, hk⟩
  · obtain ⟨g, i, happend⟩ := exists_append_iff.2 hnext
    obtain ⟨k, hk⟩ := h.exists_inTurn hab (mindsEnd_receive author text now) happend
    exact ⟨k, _, i, hk⟩
  · obtain ⟨g, i, happend⟩ := exists_append_iff.2 hnext
    obtain ⟨g', sent, hsend⟩ : ∃ g' sent, f.send text now = .ok (g', sent) := by
      rw [send, happend]
      exact ⟨_, _, rfl⟩
    obtain ⟨k, hk⟩ := h.exists_inTurn hab (mindsEnd_send text now) hsend
    exact ⟨k, _, sent, hk⟩

/-- The fourth of six messages is loaded, and pages hold two. The older page loads the second and the
third, the newer page the last two, whichever comes first, and a seventh message may arrive before the
older page or after it. -/
theorem older_commutes_six : ∃ f : Feed, f.Spans 3 4 ∧ f.config.pageSize = 2 ∧ f.HasNext ∧
    (∃ g o n, inTurn (·.serve .older) (·.serve .newer) f = .ok (g, o, n) ∧
      inTurn (·.serve .newer) (·.serve .older) f = .ok (g, n, o)) ∧
    ∃ g o i,
      inTurn (·.serve .older) (·.receive "bus" "hi" ⟨⟨2024, 7, 1⟩, 43200, 0⟩) f = .ok (g, o, i) ∧
      inTurn (·.receive "bus" "hi" ⟨⟨2024, 7, 1⟩, 43200, 0⟩) (·.serve .older) f = .ok (g, i, o) := by
  let remote := Graph.ofEntries
    [⟨⟨1, by decide⟩, .deleted⟩, ⟨⟨2, by decide⟩, .deleted⟩, ⟨⟨5, by decide⟩, .deleted⟩,
      ⟨⟨8, by decide⟩, .deleted⟩, ⟨⟨9, by decide⟩, .deleted⟩, ⟨⟨30, by decide⟩, .deleted⟩]
  let f : Feed :=
    { remote, loaded := Graph.ofEntries (remote.slice 3 4), config := { pageSize := 2 } }
  have hspans : f.Spans 3 4 := ⟨by decide, by decide +kernel, by decide +kernel⟩
  have hnext : f.HasNext := by
    have hlast : f.remote.largest? = some ⟨30, by decide⟩ := by decide +kernel
    intro i hi
    rw [hlast] at hi
    cases hi
    decide
  obtain ⟨-, -, -, hpages, hreceive, -⟩ :=
    older_commutes hspans (by decide) "bus" "hi" ⟨⟨2024, 7, 1⟩, 43200, 0⟩
  exact ⟨f, hspans, rfl, hnext, hpages (by decide), hreceive hnext⟩

/-! ## Past anything but a jump -/

/-- An operation that minds the end alone keeps it so, if a fault of it changes nothing. -/
theorem SameEnd.exists_apply_of_mindsEnd (h : SameEnd f f' a a' b) {op : Op} (hx : MindsEnd x)
    (hok : ∀ {f g s}, x f = .ok (g, s) → f.apply op = g)
    (herror : ∀ {f e}, x f = .error e → f.apply op = f) :
    ∃ d, (f.apply op).config = f.config ∧ SameEnd (f.apply op) (f'.apply op) a a' d := by
  have hparallel := hx.parallel h
  generalize hr : x f = r at hparallel
  generalize hr' : x f' = r' at hparallel
  cases hparallel with
  | fault e =>
    rw [herror hr, herror hr']
    exact ⟨b, rfl, h⟩
  | answer s hstill =>
    rw [hok hr, hok hr']
    exact ⟨_, hx.config hr, hstill⟩

/-- The second feed is the first one with an older page served. -/
theorem SameEnd.apply_older (h : SameEnd f f' a (a - f.config.pageSize) b) :
    f.apply (.page .older) = f' := by
  obtain ⟨g, hserve, hsame⟩ := h.spans.exists_older h.lt
  rw [apply, hserve]
  exact hsame.unique h

/-- It stays so, whatever happens to both but a jump. -/
theorem SameEnd.exists_apply (h : SameEnd f f' a (a - f.config.pageSize) b) {op : Op}
    (hop : op ≠ .jumpToLatest) : ∃ c d, (f.apply op).config = f.config ∧
      SameEnd (f.apply op) (f'.apply op) c (c - f.config.pageSize) d := by
  cases op with
  | page d =>
    cases d with
    | older =>
      obtain ⟨g, hserve, hsame⟩ := h.spans'.exists_older h.lt'
      rw [h.config] at hsame
      have happly : f'.apply (.page .older) = g := by rw [apply, hserve]
      rw [h.apply_older, happly]
      exact ⟨_, b, h.config, hsame⟩
    | newer =>
      exact ⟨a, h.exists_apply_of_mindsEnd mindsEnd_newer (fun hf => by rw [apply, hf])
        fun hf => by rw [apply, hf]⟩
  | jumpToLatest => exact absurd rfl hop
  | receive author text now =>
    exact ⟨a, h.exists_apply_of_mindsEnd (mindsEnd_receive author text now)
      (fun hf => by rw [apply, hf]) fun hf => by rw [apply, hf]⟩
  | send text now =>
    exact ⟨a, h.exists_apply_of_mindsEnd (mindsEnd_send text now)
      (fun hf => by rw [apply, hf]) fun hf => by rw [apply, hf]⟩
  | acknowledge sent =>
    exact ⟨a, h.exists_apply_of_mindsEnd (mindsEnd_acknowledge sent)
      (fun hf => congrArg Prod.fst (Except.ok.inj hf)) fun hf => by cases hf⟩

theorem SameEnd.exists_foldl_apply (h : SameEnd f f' a (a - f.config.pageSize) b) (ops : List Op)
    (hops : ∀ op ∈ ops, op ≠ .jumpToLatest) : ∃ c d, (ops.foldl apply f).config = f.config ∧
      SameEnd (ops.foldl apply f) (ops.foldl apply f') c (c - f.config.pageSize) d := by
  induction ops generalizing f f' a b with
  | nil => exact ⟨a, b, rfl, h⟩
  | cons op ops ih =>
    obtain ⟨hop, hrest⟩ := List.forall_mem_cons.1 hops
    obtain ⟨c, d, hconfig, hsame⟩ := h.exists_apply hop
    rw [← hconfig] at hsame ⊢
    exact ih hsame hrest

/-- **An older page may be put off** past anything that happens to the feed but a jump to the newest
message, and the feed is the same in the end. -/
theorem Spans.older_past (h : f.Spans a b) (hab : a < b) (ops : List Op)
    (hops : ∀ op ∈ ops, op ≠ .jumpToLatest) :
    ops.foldl apply (f.apply (.page .older)) = (ops.foldl apply f).apply (.page .older) := by
  obtain ⟨g, -, hsame⟩ := h.exists_older hab
  obtain ⟨c, d, hconfig, hend⟩ := hsame.exists_foldl_apply ops hops
  rw [← hconfig] at hend
  rw [hsame.apply_older, hend.apply_older]

end Scrollback.Feed
