import Mathlib.Data.List.Induction
import Scrollback.Proofs.Feed.Growth
import Scrollback.Proofs.Graph.Map
/-!
# Sends and their acknowledgements

A message that the reader sends is pending until the acknowledgement with its mark comes in. Other
acknowledgements, forged, repeated or late, change nothing. Meanwhile pages bring the message into
the loaded part and jumps drop it from there; wherever it is found, it is pending exactly as long as
its send awaits the acknowledgement.

## Main definitions

* `Feed.IsNew` — nothing was sent yet, and what is loaded comes from the history.
* `Feed.Sent`, `Feed.Awaits` — a message went out, and its acknowledgement has not come in since.
* `Feed.Books` — what history, loaded part and the list of sends under way agree upon.

## Main statements

* `Feed.Books.apply` — one operation keeps the books.
* `Feed.acknowledge_protocol` — which acknowledgements count, what they change, and where a sent
  message is pending.
-/

namespace Scrollback.Feed

variable {f f' : Feed} {i : MessageIndex} {m : Message} {p q : PendingSend} {op : Op}
  {ops after : List Op}

/-! ## Which sends await their acknowledgement -/

/-- What an operation sends, and where. -/
def issues? (f : Feed) : Op → Option (PendingSend × Message)
  | .send text now =>
    match f.send text now with
    | .ok (_, sent) => some (sent, .ofText f.config.identity text now)
    | .error _ => none
  | _ => none

/-- Among these operations is one that sends the message, with others after it. -/
def SentBefore (f : Feed) (ops : List Op) (p : PendingSend) (m : Message) (after : List Op) :
    Prop :=
  ∃ before op, ops = before ++ op :: after ∧ (before.foldl apply f).issues? op = some (p, m)

/-- One of these operations sends the message. -/
def Sent (f : Feed) (ops : List Op) (p : PendingSend) (m : Message) : Prop :=
  ∃ after, f.SentBefore ops p m after

/-- One of these operations sends a message, and none after it acknowledges that. -/
def Awaits (f : Feed) (ops : List Op) (p : PendingSend) : Prop :=
  ∃ m after, f.SentBefore ops p m after ∧ .acknowledge p ∉ after

theorem sentBefore_concat : f.SentBefore (ops ++ [op]) p m after ↔
    (after = [] ∧ (ops.foldl Feed.apply f).issues? op = some (p, m)) ∨
      ∃ rest, after = rest ++ [op] ∧ f.SentBefore ops p m rest := by
  constructor
  · rintro ⟨before, o, heq, hissues⟩
    rcases after.eq_nil_or_concat' with rfl | ⟨rest, last, rfl⟩
    · obtain ⟨rfl, hlast⟩ := List.append_inj' heq rfl
      cases hlast
      exact .inl ⟨rfl, hissues⟩
    · rw [← List.cons_append, ← List.append_assoc] at heq
      obtain ⟨rfl, hlast⟩ := List.append_inj' heq rfl
      cases hlast
      exact .inr ⟨rest, rfl, before, o, rfl, hissues⟩
  · rintro (⟨rfl, hissues⟩ | ⟨rest, rfl, before, o, rfl, hissues⟩)
    · exact ⟨ops, op, rfl, hissues⟩
    · exact ⟨before, o, by simp, hissues⟩

theorem sent_concat : f.Sent (ops ++ [op]) p m ↔
    (ops.foldl Feed.apply f).issues? op = some (p, m) ∨ f.Sent ops p m := by
  simp only [Sent, sentBefore_concat]
  constructor
  · rintro ⟨after, ⟨-, hissues⟩ | ⟨rest, -, hsent⟩⟩
    · exact .inl hissues
    · exact .inr ⟨rest, hsent⟩
  · rintro (hissues | ⟨rest, hsent⟩)
    · exact ⟨[], .inl ⟨rfl, hissues⟩⟩
    · exact ⟨_, .inr ⟨rest, rfl, hsent⟩⟩

theorem awaits_concat : f.Awaits (ops ++ [op]) p ↔
    (∃ m, (ops.foldl Feed.apply f).issues? op = some (p, m)) ∨
      (f.Awaits ops p ∧ op ≠ .acknowledge p) := by
  simp only [Awaits, sentBefore_concat]
  constructor
  · rintro ⟨m, after, ⟨-, hissues⟩ | ⟨rest, rfl, hsent⟩, hafter⟩
    · exact .inl ⟨m, hissues⟩
    · simp only [List.mem_append, List.mem_singleton, not_or] at hafter
      exact .inr ⟨⟨m, rest, hsent, hafter.1⟩, Ne.symm hafter.2⟩
  · rintro (⟨m, hissues⟩ | ⟨⟨m, rest, hsent, hrest⟩, hop⟩)
    · exact ⟨m, [], .inl ⟨rfl, hissues⟩, List.not_mem_nil⟩
    · refine ⟨m, _, .inr ⟨rest, rfl, hsent⟩, ?_⟩
      simp only [List.mem_append, List.mem_singleton, not_or]
      exact ⟨hrest, hop.symm⟩

/-! ## What is loaded comes from the history -/

/-- Every loaded entry is one of the history. -/
def Faithful (f : Feed) : Prop := f.loaded.entries ⊆ f.remote.entries

theorem Faithful.get? (h : f.Faithful) (hi : i ∈ f.loaded.keys) :
    f.loaded.get? i = f.remote.get? i := by
  obtain ⟨⟨i, n⟩, he, rfl⟩ := List.mem_map.1 hi
  rw [Graph.get?_eq_some_iff.2 he, Graph.get?_eq_some_iff.2 (h he)]

theorem Faithful.copy (h : f.Faithful) (start stop : Nat) : (f.copy start stop).1.Faithful := by
  intro e he
  rcases (Graph.mem_extend (f.remote.sorted_slice start stop)).1 he with he | ⟨he, -⟩
  · obtain ⟨k, -, -, hk⟩ := Graph.mem_slice.1 he
    exact List.mem_of_getElem? hk
  · exact h he

theorem Faithful.serve (h : f.Faithful) {d : Direction} {o : FetchOutcome}
    (hf : f.serve d = .ok (f', o)) : f'.Faithful := by
  cases d with
  | older =>
    rw [serve_older_eq] at hf
    cases hf
    exact h.copy _ _
  | newer =>
    rw [serve_newer_eq] at hf
    split at hf
    · cases hf
      exact h.copy _ _
    · cases hf

theorem Faithful.jumpToLatest (h : f.Faithful) : f.jumpToLatest.1.Faithful := by
  rw [Feed.jumpToLatest]
  split
  · exact h.copy _ _
  · have hempty : ({ f with loaded := Graph.empty } : Feed).Faithful := List.nil_subset _
    exact hempty.copy _ _

theorem Faithful.append (h : f.Faithful) (hf : f.append m = .ok (f', i)) : f'.Faithful := by
  obtain ⟨hlt, rfl⟩ := append_eq_ok hf
  have hmem : ∀ e ∈ f.loaded.entries, e ∈ (f.remote.insert i (.post m)).entries := fun e he =>
    Graph.mem_insert.2 (.inr ⟨h he, MessageIndex.ne_of_lt (hlt e (h he))⟩)
  intro e he
  dsimp only at he
  split at he
  · rcases Graph.mem_insert.1 he with rfl | ⟨he, -⟩
    · exact Graph.mem_insert.2 (.inl rfl)
    · exact hmem e he
  · exact hmem e he

theorem Faithful.acknowledge (h : f.Faithful) (p : PendingSend) :
    (f.acknowledge p).1.Faithful := by
  rw [Feed.acknowledge]
  split
  · exact List.map_subset _ h
  · exact h

/-- Nothing was sent yet, and what is loaded comes from the history. -/
structure IsNew (f : Feed) : Prop where
  pending : f.pending = []
  faithful : f.Faithful

/-- A feed is new when it is opened. -/
theorem isNew_opened (remote : Graph) (config : FeedConfig) (o : Opening) :
    (opened remote config o).IsNew := by
  have hempty : ({ remote, config } : Feed).Faithful := List.nil_subset _
  cases o with
  | latest => exact ⟨rfl, hempty.copy _ _⟩
  | around target =>
    rw [opened]
    split
    · next hload =>
      obtain ⟨-, hcopy⟩ := loadAround_eq_ok.1 hload
      cases hcopy
      exact ⟨rfl, hempty.copy _ _⟩
    · exact ⟨rfl, hempty⟩

/-! ## The books of a feed -/

/-- History, loaded part and the list of sends under way agree upon the messages that were sent and
the sends that are awaited. -/
structure Books (f : Feed) (sent : PendingSend → Message → Prop) (awaited : PendingSend → Prop) :
    Prop where
  faithful : f.Faithful
  mem_pending : ∀ p, p ∈ f.pending ↔ awaited p
  sent_of_awaited : ∀ p, awaited p → ∃ m, sent p m
  /-- A sent message stands where it was sent, pending while it is awaited. -/
  post : ∀ p m, sent p m → ∃ n, f.remote.get? p.index = some (.post n) ∧
    n.acknowledged = m ∧ (n.pending = true ↔ awaited p)
  /-- No two messages were sent to one place. -/
  unique : ∀ p q m n, sent p m → sent q n → p.index = q.index → p = q

variable {sent : PendingSend → Message → Prop} {awaited : PendingSend → Prop}

/-- The books depend on what was sent and what is awaited, not on how that is said. -/
theorem Books.congr {sent' : PendingSend → Message → Prop} {awaited' : PendingSend → Prop}
    (h : f.Books sent awaited) (hsent : ∀ p m, sent' p m ↔ sent p m)
    (hawaited : ∀ p, awaited' p ↔ awaited p) : f.Books sent' awaited' := by
  obtain rfl : sent' = sent := funext₂ fun p m => propext (hsent p m)
  obtain rfl : awaited' = awaited := funext fun p => propext (hawaited p)
  exact h

theorem IsNew.books (h : f.IsNew) : f.Books (fun _ _ => False) fun _ => False where
  faithful := h.faithful
  mem_pending := fun p => by rw [h.pending, iff_false]; exact List.not_mem_nil
  sent_of_awaited := fun _ h => h.elim
  post := fun _ _ h => h.elim
  unique := fun _ _ _ _ h => h.elim

/-- Pages and jumps bear on the loaded part only. -/
theorem Books.of_eq (h : f.Books sent awaited) (hfaithful : f'.Faithful)
    (hremote : f'.remote = f.remote) (hpending : f'.pending = f.pending) :
    f'.Books sent awaited where
  faithful := hfaithful
  mem_pending := by rw [hpending]; exact h.mem_pending
  sent_of_awaited := h.sent_of_awaited
  post := by rw [hremote]; exact h.post
  unique := h.unique

theorem get?_remote_append (hf : f.append m = .ok (f', i)) (j : MessageIndex) :
    f'.remote.get? j = if j = i then some (.post m) else f.remote.get? j := by
  obtain ⟨-, rfl⟩ := append_eq_ok hf
  exact Graph.get?_insert _ _ _ _

/-- No message was sent to a place that is new. -/
theorem Books.index_ne (h : f.Books sent awaited) {grown : Feed} {new : Message}
    (hf : f.append new = .ok (grown, i)) (hsent : sent p m) : p.index ≠ i := by
  obtain ⟨n, hn, -⟩ := h.post p m hsent
  exact MessageIndex.ne_of_lt (lt_of_append hf _ (Graph.mem_keys_of_get? hn))

theorem Books.append (h : f.Books sent awaited) {new : Message}
    (hf : f.append new = .ok (f', i)) : f'.Books sent awaited where
  faithful := h.faithful.append hf
  mem_pending := by
    obtain ⟨-, rfl⟩ := append_eq_ok hf
    exact h.mem_pending
  sent_of_awaited := h.sent_of_awaited
  post := fun p m hsent => by
    rw [get?_remote_append hf, if_neg (h.index_ne hf hsent)]
    exact h.post p m hsent
  unique := h.unique

theorem Books.send (h : f.Books sent awaited) {text : String} {now : Instant} {new : PendingSend}
    (hf : f.send text now = .ok (f', new)) :
    f'.Books (fun p m => (p = new ∧ m = .ofText f.config.identity text now) ∨ sent p m)
      fun p => p = new ∨ awaited p := by
  rw [Feed.send] at hf
  cases happend : f.append (Message.ofText f.config.identity text now).asPending with
  | error e =>
    rw [happend] at hf
    cases hf
  | ok r =>
    obtain ⟨grown, i⟩ := r
    rw [happend] at hf
    cases hf
    have hbooks := h.append happend
    have hne : ∀ p m, sent p m → p.index ≠ i := fun p m => h.index_ne happend
    constructor
    case faithful => exact hbooks.faithful
    case mem_pending =>
      intro p
      simp only [List.mem_cons, List.mem_filter, decide_eq_true_eq, hbooks.mem_pending]
      refine or_congr_right (and_iff_left_of_imp fun hp => ?_)
      obtain ⟨m, hsent⟩ := h.sent_of_awaited p hp
      exact hne p m hsent
    case sent_of_awaited =>
      rintro p (rfl | hp)
      · exact ⟨_, .inl ⟨rfl, rfl⟩⟩
      · obtain ⟨m, hsent⟩ := h.sent_of_awaited p hp
        exact ⟨m, .inr hsent⟩
    case post =>
      rintro p m (⟨rfl, rfl⟩ | hsent)
      · refine ⟨_, (get?_remote_append happend i).trans (if_pos rfl), rfl, ?_⟩
        exact iff_of_true rfl (.inl rfl)
      · obtain ⟨n, hn, hm, hpending⟩ := hbooks.post p m hsent
        refine ⟨n, hn, hm, hpending.trans (or_iff_right ?_).symm⟩
        rintro rfl
        exact hne _ m hsent rfl
    case unique =>
      rintro p q m n (⟨rfl, -⟩ | hp) (⟨rfl, -⟩ | hq) hindex
      · rfl
      · exact absurd hindex.symm (hne q n hq)
      · exact absurd hindex (hne p m hp)
      · exact h.unique p q m n hp hq hindex

/-- Every acknowledgement leaves the books in order, whether it counts or not. -/
theorem Books.acknowledge (h : f.Books sent awaited) (p : PendingSend) :
    (f.acknowledge p).1.Books sent fun q => awaited q ∧ q ≠ p := by
  have hfaithful := h.faithful.acknowledge p
  rw [Feed.acknowledge] at hfaithful ⊢
  split
  · next hp =>
    rw [if_pos hp] at hfaithful
    obtain ⟨m, hsent⟩ := h.sent_of_awaited p ((h.mem_pending p).1 hp)
    have hne : ∀ q n, sent q n → (q.index = p.index ↔ q = p) := fun q n hq =>
      ⟨h.unique q p n m hq hsent, congrArg _⟩
    constructor
    case faithful => exact hfaithful
    case mem_pending =>
      intro q
      simp only [List.mem_filter, decide_eq_true_eq, h.mem_pending]
      refine and_congr_right fun hq => not_congr ?_
      obtain ⟨n, hsent⟩ := h.sent_of_awaited q hq
      exact hne q n hsent
    case sent_of_awaited => exact fun q hq => h.sent_of_awaited q hq.1
    case post =>
      intro q n hq
      obtain ⟨x, hx, hn, hpending⟩ := h.post q n hq
      rw [Graph.get?_acknowledge, hx]
      split
      · next hindex =>
        refine ⟨x.acknowledged, rfl, hn, ?_⟩
        exact iff_of_false Bool.false_ne_true fun hw => hw.2 ((hne q n hq).1 hindex)
      · next hindex =>
        refine ⟨x, rfl, hn, hpending.trans (and_iff_left fun heq => ?_).symm⟩
        exact hindex ((hne q n hq).2 heq)
    case unique => exact h.unique
  · next hp =>
    rw [h.mem_pending] at hp
    refine h.congr (fun _ _ => Iff.rfl) fun q => ?_
    exact and_iff_left_of_imp fun hq heq => hp (heq ▸ hq)

theorem pending_serve {d : Direction} {o : FetchOutcome} (hf : f.serve d = .ok (f', o)) :
    f'.pending = f.pending := by
  cases d with
  | older =>
    rw [serve_older_eq] at hf
    cases hf
    rfl
  | newer =>
    rw [serve_newer_eq] at hf
    split at hf <;> cases hf
    rfl

theorem pending_jumpToLatest (f : Feed) : f.jumpToLatest.1.pending = f.pending := by
  rw [Feed.jumpToLatest]
  split <;> rfl

/-- An operation that neither sends nor acknowledges leaves open what was open. -/
theorem Books.apply_other (h : f.Books sent awaited) (hsend : ∀ text now, op ≠ .send text now)
    (hack : ∀ p, op ≠ .acknowledge p) : (f.apply op).Books sent awaited := by
  cases op with
  | page d =>
    rw [Feed.apply]
    split
    · next hserve =>
      exact h.of_eq (h.faithful.serve hserve) (serve_frame hserve).1 (pending_serve hserve)
    · exact h
  | jumpToLatest =>
    exact h.of_eq h.faithful.jumpToLatest f.jumpToLatest_frame.1 f.pending_jumpToLatest
  | receive author text now =>
    rw [Feed.apply]
    split
    · next hreceive => exact h.append hreceive
    · exact h
  | send text now => exact absurd rfl (hsend text now)
  | acknowledge p => exact absurd rfl (hack p)

/-- Whatever happens, the books are kept. -/
theorem Books.apply (h : f.Books sent awaited) (op : Op) :
    (f.apply op).Books (fun p m => f.issues? op = some (p, m) ∨ sent p m)
      fun p => (∃ m, f.issues? op = some (p, m)) ∨ (awaited p ∧ op ≠ .acknowledge p) := by
  have hother (hnone : f.issues? op = none) (hack : ∀ p, op ≠ .acknowledge p)
      (hbooks : (f.apply op).Books sent awaited) : (f.apply op).Books
        (fun p m => f.issues? op = some (p, m) ∨ sent p m)
        fun p => (∃ m, f.issues? op = some (p, m)) ∨ (awaited p ∧ op ≠ .acknowledge p) :=
    hbooks.congr (by simp [hnone]) (by simp [hnone, hack])
  cases op with
  | page d => exact hother rfl (by simp) (h.apply_other (by simp) (by simp))
  | jumpToLatest => exact hother rfl (by simp) (h.apply_other (by simp) (by simp))
  | receive author text now => exact hother rfl (by simp) (h.apply_other (by simp) (by simp))
  | send text now =>
    cases hsend : f.send text now with
    | error e =>
      have happly : f.apply (.send text now) = f := by rw [Feed.apply, hsend]
      exact hother (by rw [issues?, hsend]) (by simp) (happly.symm ▸ h)
    | ok r =>
      have hissues : ∀ p m, f.issues? (.send text now) = some (p, m) ↔
          p = r.2 ∧ m = .ofText f.config.identity text now := by
        intro p m
        rw [issues?, hsend, Option.some.injEq, Prod.mk.injEq]
        exact and_congr eq_comm eq_comm
      rw [Feed.apply, hsend]
      exact (h.send hsend).congr (by simp [hissues]) (by simp [hissues])
  | acknowledge p =>
    refine (h.acknowledge p).congr (by simp [issues?]) fun q => ?_
    simp [issues?, eq_comm]

/-- After any operations the books of a new feed are kept. -/
theorem IsNew.books_foldl (h : f.IsNew) (ops : List Op) :
    (ops.foldl Feed.apply f).Books (f.Sent ops) (f.Awaits ops) := by
  induction ops using List.reverseRecOn with
  | nil => exact h.books.congr (by simp [Sent, SentBefore]) (by simp [Awaits, SentBefore])
  | append_singleton ops op ih =>
    rw [List.foldl_append]
    exact (ih.apply op).congr (fun _ _ => sent_concat) fun _ => awaits_concat

/-! ## The protocol -/

theorem acknowledge_snd_iff : (f.acknowledge p).2 = true ↔ p ∈ f.pending := by
  rw [Feed.acknowledge]
  split <;> simpa

/-- An acknowledgement that does not count changes nothing. -/
theorem acknowledge_of_notMem (h : p ∉ f.pending) : f.acknowledge p = (f, false) := if_neg h

theorem acknowledge_of_mem (h : p ∈ f.pending) :
    (f.acknowledge p).1.remote = f.remote.acknowledge p.index ∧
      (f.acknowledge p).1.loaded = f.loaded.acknowledge p.index := by
  rw [Feed.acknowledge, if_pos h]
  exact ⟨rfl, rfl⟩

/-- **Acknowledgements.** Whatever happened to a feed that was new, an acknowledgement counts exactly
if it is that of a message sent before and not acknowledged since. One that does not count changes
nothing. One that counts clears the pending mark of that message, in the history and in the loaded
part if the message is loaded, and changes no other node. In every state a message that was sent
stands where it was sent, and wherever it is found it is pending exactly while its acknowledgement
is awaited. -/
theorem acknowledge_protocol (h : f.IsNew) (ops : List Op) :
    let g := ops.foldl Feed.apply f
    (∀ p, (g.acknowledge p).2 = true ↔ f.Awaits ops p) ∧
    (∀ p, (g.acknowledge p).2 = false → (g.acknowledge p).1 = g) ∧
    (∀ p, (g.acknowledge p).2 = true → ∃ m n, f.Sent ops p m ∧
      g.remote.get? p.index = some (.post n) ∧ n.pending = true ∧
      (∀ j, (g.acknowledge p).1.remote.get? j =
        if j = p.index then some (.post m) else g.remote.get? j) ∧
      ∀ j, (g.acknowledge p).1.loaded.get? j =
        if j = p.index ∧ j ∈ g.loaded.keys then some (.post m) else g.loaded.get? j) ∧
    ∀ p m, f.Sent ops p m → ∃ n, n.acknowledged = m ∧
      (n.pending = true ↔ f.Awaits ops p) ∧
      g.remote.get? p.index = some (.post n) ∧
      (p.index ∈ g.loaded.keys → g.loaded.get? p.index = some (.post n)) := by
  intro g
  have hbooks : g.Books (f.Sent ops) (f.Awaits ops) := h.books_foldl ops
  refine ⟨fun p => acknowledge_snd_iff.trans (hbooks.mem_pending p), fun p hp => ?_, fun p hp => ?_,
    fun p m hsent => ?_⟩
  · rw [acknowledge_of_notMem fun hmem => by simp [acknowledge_snd_iff.2 hmem] at hp]
  · have hmem := acknowledge_snd_iff.1 hp
    have hawaits := (hbooks.mem_pending p).1 hmem
    obtain ⟨m, hsent⟩ := hbooks.sent_of_awaited p hawaits
    obtain ⟨n, hn, rfl, hpending⟩ := hbooks.post p m hsent
    obtain ⟨hremote, hloaded⟩ := acknowledge_of_mem hmem
    refine ⟨_, n, hsent, hn, hpending.2 hawaits, fun j => ?_, fun j => ?_⟩
    · rw [hremote, Graph.get?_acknowledge]
      split
      · next hj =>
        rw [hj, hn]
        rfl
      · rfl
    · rw [hloaded, Graph.get?_acknowledge]
      by_cases hj : j = p.index
      · by_cases hkey : j ∈ g.loaded.keys
        · rw [if_pos hj, if_pos ⟨hj, hkey⟩, hbooks.faithful.get? hkey, hj, hn]
          rfl
        · rw [if_pos hj, if_neg fun hboth => hkey hboth.2, Graph.get?_eq_none_iff.2 hkey]
          rfl
      · rw [if_neg hj, if_neg fun hboth => hj hboth.1]
  · obtain ⟨n, hn, hm, hpending⟩ := hbooks.post p m hsent
    exact ⟨n, hm, hpending, hn, fun hkey => (hbooks.faithful.get? hkey).trans hn⟩

/-- A message that a jump drops from the loaded part and pages bring back there is still pending, and
its acknowledgement counts, though a forged one came first. -/
theorem acknowledge_protocol_of_refetched :
    ∃ (f : Feed) (before after : List Op) (p : PendingSend), f.IsNew ∧
      p.index ∈ (before.foldl Feed.apply f).loaded.keys ∧
      p.index ∉ ((before ++ [Op.jumpToLatest]).foldl Feed.apply f).loaded.keys ∧
      let g := (before ++ .jumpToLatest :: after).foldl Feed.apply f
      f.Awaits (before ++ .jumpToLatest :: after) p ∧ g.loaded.isPending p.index = true ∧
        (g.acknowledge p).2 = true ∧ (g.acknowledge p).1.loaded.isPending p.index = false := by
  let now : Instant := ⟨⟨2024, 1, 1⟩, 0, 0⟩
  let history := Graph.ofEntries
    [⟨⟨1, by decide⟩, .deleted⟩, ⟨⟨2, by decide⟩, .deleted⟩, ⟨⟨3, by decide⟩, .deleted⟩]
  let before : List Op :=
    [.send "hi" now, .receive "bus" "a" now, .receive "bus" "b" now, .receive "bus" "c" now,
      .receive "bus" "d" now, .page .newer, .page .newer]
  let after : List Op := [.acknowledge ⟨⟨4, by decide⟩, ⟨7⟩⟩, .page .older, .page .older]
  let p : PendingSend := ⟨⟨4, by decide⟩, ⟨0⟩⟩
  have hnew := isNew_opened history { pageSize := 2 } (.around ⟨1, by decide⟩)
  have hcounts := (acknowledge_protocol hnew (before ++ .jumpToLatest :: after)).1 p
  refine ⟨_, before, after, p, hnew, by decide +kernel, by decide +kernel, hcounts.1 ?_,
    by decide +kernel, ?_, by decide +kernel⟩ <;> decide +kernel

end Scrollback.Feed
