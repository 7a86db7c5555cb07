import Scrollback.Proofs.Feed.Span
/-!
# No hole, no drift

A feed is opened with its first page loaded. Afterwards pages are served, the reader jumps to the
newest message, messages arrive and are sent, and sends are acknowledged, in any order. The loaded
part stays a slice of the history throughout.

## Main definitions

* `Feed.Opening`, `Feed.opened` — a new feed and its first page.
* `Feed.Op`, `Feed.apply` — what happens to a feed afterwards.

## Main statements

* `Feed.loaded_contiguous` — after any operations the loaded part is a slice of the history, node
  for node.
-/

namespace Scrollback.Feed

/-- How the loaded part of a new feed is first filled. -/
inductive Opening where
  /-- With the newest page. -/
  | latest
  /-- With the page around an index. -/
  | around (target : MessageIndex)
deriving DecidableEq, Repr

/-- A new feed over a history, with its first page loaded. It stays empty where the bounds of the
page are no counts. -/
def opened (remote : Graph) (config : FeedConfig) : Opening → Feed
  | .latest => ({ remote, config } : Feed).loadLatest.1
  | .around target =>
    match ({ remote, config } : Feed).loadAround target with
    | .ok (f, _) => f
    | .error _ => { remote, config }

/-- What happens to a feed. -/
inductive Op where
  /-- The page that continues the loaded part in a direction is served. -/
  | page (direction : Direction)
  /-- The reader jumps to the newest message. -/
  | jumpToLatest
  /-- Somebody else writes a message. -/
  | receive (author text : String) (now : Instant)
  /-- The reader sends a message. -/
  | send (text : String) (now : Instant)
  /-- An acknowledgement comes in, for a send under way or for none. -/
  | acknowledge (sent : PendingSend)

/-- The feed after an operation. One that faults has changed nothing yet. -/
def apply (f : Feed) : Op → Feed
  | .page d =>
    match f.serve d with
    | .ok (served, _) => served
    | .error _ => f
  | .jumpToLatest => f.jumpToLatest.1
  | .receive author text now =>
    match f.receive author text now with
    | .ok (grown, _) => grown
    | .error _ => f
  | .send text now =>
    match f.send text now with
    | .ok (grown, _) => grown
    | .error _ => f
  | .acknowledge sent => (f.acknowledge sent).1

variable {f f' : Feed} {a b : Nat}

theorem spans_opened (remote : Graph) (config : FeedConfig) (o : Opening) :
    ∃ a b, (opened remote config o).Spans a b := by
  cases o with
  | latest => exact ⟨_, _, loadLatest_of_empty rfl⟩
  | around target =>
    rw [opened]
    cases hload : ({ remote, config } : Feed).loadAround target with
    | ok p => exact ⟨_, _, loadAround_of_empty rfl hload⟩
    | error e => exact ⟨0, 0, Spans.of_empty rfl (Nat.zero_le _)⟩

/-- A sent message is appended; beyond that a send only keeps its own books. -/
theorem exists_append_of_send {text : String} {now : Instant} {sent : PendingSend}
    (hf : f.send text now = .ok (f', sent)) :
    ∃ m grown, f.append m = .ok (grown, sent.index) ∧ f'.remote = grown.remote ∧
      f'.loaded = grown.loaded ∧ f'.config = grown.config ∧ f'.requests = grown.requests := by
  rw [send] at hf
  cases happend : f.append (Message.ofText f.config.identity text now).asPending with
  | error e => rw [happend] at hf; cases hf
  | ok p =>
    rw [happend] at hf
    cases hf
    exact ⟨_, p.1, happend, rfl, rfl, rfl, rfl⟩

theorem Spans.congr (h : f.Spans a b) (hr : f'.remote = f.remote) (hl : f'.loaded = f.loaded) :
    f'.Spans a b := by
  obtain ⟨hle, hsize, hentries⟩ := h
  exact ⟨hle, by rwa [hr], by rw [hr, hl, hentries]⟩

/-- One operation moves the ends of the span and leaves no hole. -/
theorem Spans.exists_apply (h : f.Spans a b) (op : Op) : ∃ a' b', (f.apply op).Spans a' b' := by
  cases op with
  | page d =>
    rw [Feed.apply]
    split
    · next hserve => exact h.exists_serve hserve
    · exact ⟨a, b, h⟩
  | jumpToLatest =>
    obtain ⟨a', h'⟩ := h.exists_jumpToLatest
    exact ⟨a', _, h'⟩
  | receive author text now =>
    rw [Feed.apply]
    split
    · next happend => exact ⟨a, _, h.append happend⟩
    · exact ⟨a, b, h⟩
  | send text now =>
    rw [Feed.apply]
    split
    · next hsend =>
      obtain ⟨m, grown, happend, hr, hl, -⟩ := exists_append_of_send hsend
      exact ⟨a, _, (h.append happend).congr hr hl⟩
    · exact ⟨a, b, h⟩
  | acknowledge sent => exact ⟨a, b, h.acknowledge sent⟩

theorem Spans.exists_foldl_apply (h : f.Spans a b) (ops : List Op) :
    ∃ a' b', (ops.foldl apply f).Spans a' b' := by
  induction ops generalizing f a b with
  | nil => exact ⟨a, b, h⟩
  | cons op ops ih =>
    obtain ⟨a', b', h'⟩ := h.exists_apply op
    exact ih h'

/-- **The loaded part is always a slice of the history.** However a feed is opened and whatever
happens to it afterwards, the loaded indices are those of the history between two positions, and at
each of them the loaded node is the history's. -/
theorem loaded_contiguous (remote : Graph) (config : FeedConfig) (o : Opening) (ops : List Op) :
    let f := ops.foldl apply (opened remote config o)
    ∃ a b, a ≤ b ∧ b ≤ f.remote.size ∧ f.loaded.entries = f.remote.slice a b ∧
      f.loaded.keys = f.remote.keysIn a b ∧
      ∀ i ∈ f.loaded.keys, f.loaded.get? i = f.remote.get? i := by
  intro f
  obtain ⟨a₀, b₀, h₀⟩ := spans_opened remote config o
  obtain ⟨a, b, h⟩ := h₀.exists_foldl_apply ops
  refine ⟨a, b, h.le, h.le_size, h.entries, ?_, fun i hi => ?_⟩
  · rw [Graph.keys, Graph.keysIn, h.entries]
  · exact Graph.get?_eq_of_entries_eq_slice h.entries hi

end Scrollback.Feed
