import Scrollback.History
import Scrollback.Proofs.Feed.Growth
import Scrollback.Proofs.Graph.Ranked
/-!
# The order of a history

A history is kept oldest first, and everything that looks for a place in it does so by halving. The
order is established when the history is read, whatever the order of the entries in the text. From
then on it is kept by numbering alone: a new message goes to the end, with the number after that of
the newest one. So the order lasts as long as there are numbers.

## Main definitions

* `Graph.newestSeq` — the number of the newest message.
* `Feed.Call`, `Feed.callAll` — messages that arrive and messages that are sent.

## Main statements

* `History.perm_of_load` — what is read is what the text holds, in order.
* `Entry.Sorted.partitionPoint_eq` — halving finds places in an ordered history.
* `Feed.callAll_eq` — the numbers and entries that a sequence of calls adds.
* `Feed.callAll_increasing` — a history that was read is in order after any calls, and these are
  answered as long as there are numbers.
-/

namespace Scrollback

/-! ## Reading -/

namespace Graph

variable {g : Graph} {i : MessageIndex} {e : Entry} {es : List Entry}

/-- Where its index is new, an entry is added. -/
theorem perm_place (h : ∀ x ∈ es, x.index ≠ e.index) : (place e es).Perm (e :: es) := by
  induction es with
  | nil => exact .refl _
  | cons x es ih =>
    obtain ⟨hx, hes⟩ := List.forall_mem_cons.1 h
    rw [place]
    split
    · exact .refl _
    · rw [if_neg hx.symm]
      exact ((ih hes).cons x).trans (.swap e x es)

theorem perm_insert (h : g.contains i = false) (n : Node) :
    (g.insert i n).entries.Perm (⟨i, n⟩ :: g.entries) := by
  refine perm_place fun x hx hi => ?_
  have hkey := contains_iff_mem_keys.2 (mem_keys_iff.2 ⟨x, hx, hi⟩)
  rw [h] at hkey
  cases hkey

end Graph

namespace History

variable {g g' : Graph} {es : List (MessageIndex × Node)}

/-- What is collected is added to what was there. -/
theorem perm_of_collect (h : collect g es = .ok g') :
    g'.entries.Perm (g.entries ++ es.map fun e => ⟨e.1, e.2⟩) := by
  induction es generalizing g with
  | nil =>
    cases h
    simp
  | cons e es ih =>
    rw [collect] at h
    split at h
    · cases h
    · next hnew =>
      have hinsert := g.perm_insert (eq_false_of_ne_true hnew) e.2
      refine (ih h).trans ((hinsert.append_right _).trans ?_)
      exact List.perm_middle.symm

/-- **Reading a history** gives the entries of the text, each once. -/
theorem perm_of_load {text : String} (h : load text = .ok g) : ∃ es, entries? text = some es ∧
    g.entries.Perm (es.map fun e => ⟨e.1, e.2⟩) := by
  rw [load] at h
  split at h
  · next es hes => exact ⟨es, hes, perm_of_collect h⟩
  · cases h

end History

/-! ## Looking for a place -/

/-- Where a test that holds of an index holds of all before it, halving counts the entries that
pass. -/
theorem Entry.Sorted.partitionPoint_eq {es : List Entry} (hs : Entry.Sorted es)
    (test : MessageIndex → Bool) (htest : ∀ i j, i < j → test j = true → test i = true) :
    partitionPoint (fun p => es[p]?.any fun e => test e.index) 0 es.length =
      (es.takeWhile fun e => test e.index).length := by
  have hany : ∀ (p : Nat) (e : Entry), es[p]? = some e →
      (es[p]?.any fun e => test e.index) = test e.index := by
    intro p e he
    rw [he, Option.any_some]
  have hmono : ∀ p q, p ≤ q → q < es.length → (es[q]?.any fun e => test e.index) = true →
      (es[p]?.any fun e => test e.index) = true := by
    intro p q hpq hq hpass
    rcases Nat.lt_or_eq_of_le hpq with hlt | rfl
    · have hp := Nat.lt_trans hlt hq
      rw [hany q _ (List.getElem?_eq_getElem hq)] at hpass
      rw [hany p _ (List.getElem?_eq_getElem hp)]
      exact htest _ _ (List.pairwise_iff_getElem.1 hs p q hp hq hlt) hpass
    · exact hpass
  obtain ⟨hbelow, habove⟩ := partitionPoint_spec (Nat.zero_le _) hmono
  refine (length_takeWhile_eq (partitionPoint_le (Nat.zero_le _)) ?_ ?_).symm
  · intro p e hp he
    rw [← hany p e he]
    exact hbelow p (Nat.zero_le p) hp
  · intro e he
    rw [← hany _ e he]
    exact habove _ (Nat.le_refl _) (List.getElem?_eq_some_iff.1 he).1

/-- A rank is found by halving. -/
theorem Graph.rank_eq_partitionPoint (g : Graph) (i : MessageIndex) :
    g.rank i = partitionPoint (fun p => g.entries[p]?.any (·.index < i)) 0 g.size :=
  (g.sorted.partitionPoint_eq (decide <| · < i) fun _ _ hlt h =>
    decide_eq_true (MessageIndex.lt_trans hlt (of_decide_eq_true h))).symm

theorem Feed.rankAfter_eq_partitionPoint (f : Feed) (i : MessageIndex) : f.rankAfter i =
    partitionPoint (fun p => f.remote.entries[p]?.any (·.index ≤ i)) 0 f.remote.size :=
  (f.remote.sorted.partitionPoint_eq (decide <| · ≤ i) fun _ _ hlt h =>
    decide_eq_true (Nat.le_of_lt (Nat.lt_of_lt_of_le hlt (of_decide_eq_true h)))).symm

/-! ## Numbering -/

namespace Graph

variable {g r : Graph} {i : MessageIndex} {n : Node}

/-- The number of the newest message; before the first one it is zero. -/
def newestSeq (g : Graph) : Nat := g.largest?.elim 0 MessageIndex.seq

theorem newestSeq_lt (g : Graph) : g.newestSeq < Count.bound := by
  rw [newestSeq]
  cases g.largest? with
  | none => decide
  | some k => exact k.seq_lt

theorem seq_le_newestSeq (hi : i ∈ g.keys) : i.seq ≤ g.newestSeq := by
  rw [newestSeq]
  cases hlargest : g.largest? with
  | none =>
    rw [largest?_eq_none_iff, size_eq_length_keys, List.length_eq_zero_iff] at hlargest
    rw [hlargest] at hi
    cases hi
  | some k => exact le_of_largest? hlargest hi

theorem newestSeq_of_append (h : r.entries = g.entries ++ [⟨i, n⟩]) : r.newestSeq = i.seq := by
  rw [newestSeq, largest?, h, List.getLast?_concat]
  rfl

/-- A new message has the number after that of the newest one, if there is one. -/
theorem nextIndex_eq (g : Graph) :
    g.largest?.elim (.ok MessageIndex.first) MessageIndex.next =
      if h : g.newestSeq + 1 < Count.bound then .ok ⟨g.newestSeq + 1, h⟩
      else .error .addOverflow := by
  rw [newestSeq]
  cases g.largest? <;> rfl

end Graph

namespace Feed

variable {f f' : Feed} {i : MessageIndex} {e : Fault}

/-- A message that arrives, or that the reader sends. -/
inductive Call where
  /-- Somebody else wrote it. -/
  | receive (author text : String) (now : Instant)
  /-- The reader wrote it. -/
  | send (text : String) (now : Instant)

/-- The message of a call. -/
def Call.message (identity : String) : Call → Message
  | .receive author text now => .ofText author text now
  | .send text now => (Message.ofText identity text now).asPending

/-- The feed after a call, and the index of the message. -/
def call (f : Feed) : Call → Checked (Feed × MessageIndex)
  | .receive author text now => f.receive author text now
  | .send text now => (f.send text now).map fun r => (r.1, r.2.index)

/-- The feed after calls one after the other, and the indices of their messages. -/
def callAll (f : Feed) : List Call → Checked (Feed × List MessageIndex)
  | [] => .ok (f, [])
  | c :: cs => do
    let (f, i) ← f.call c
    let (f, is) ← f.callAll cs
    return (f, i :: is)

/-- The entries that calls add at given indices. -/
def added (f : Feed) (is : List MessageIndex) (calls : List Call) : List Entry :=
  List.zipWith (fun i c => ⟨i, .post (c.message f.config.identity)⟩) is calls

/-! ### One call -/

theorem exists_append (m : Message) (h : f.remote.newestSeq + 1 < Count.bound) :
    ∃ f', f.append m = .ok (f', ⟨f.remote.newestSeq + 1, h⟩) := by
  rw [append, Graph.nextIndex_eq, dif_pos h]
  exact ⟨_, rfl⟩

theorem append_eq_error (m : Message) (h : Count.bound ≤ f.remote.newestSeq + 1) :
    f.append m = .error .addOverflow := by
  rw [append, Graph.nextIndex_eq, dif_neg (Nat.not_lt.2 h)]
  rfl

/-- A call appends its message. What a send does beyond that leaves the history alone. -/
theorem call_of_append {c : Call} (h : f.append (c.message f.config.identity) = .ok (f', i)) :
    ∃ g, f.call c = .ok (g, i) ∧ g.remote = f'.remote ∧ g.config = f'.config := by
  cases c with
  | receive author text now => exact ⟨f', h, rfl, rfl⟩
  | send text now =>
    rw [Call.message] at h
    rw [call, send, h]
    exact ⟨_, rfl, rfl, rfl⟩

theorem call_of_append_eq_error {c : Call}
    (h : f.append (c.message f.config.identity) = .error e) : f.call c = .error e := by
  cases c with
  | receive author text now => exact h
  | send text now =>
    rw [Call.message] at h
    rw [call, send, h]
    rfl

/-- **One call** adds its message at the end, with the number after that of the newest one. -/
theorem exists_call (c : Call) (h : f.remote.newestSeq + 1 < Count.bound) :
    ∃ f', f.call c = .ok (f', ⟨f.remote.newestSeq + 1, h⟩) ∧
      f'.remote.entries = f.remote.entries ++ f.added [⟨f.remote.newestSeq + 1, h⟩] [c] ∧
      f'.remote.newestSeq = f.remote.newestSeq + 1 ∧ f'.config = f.config := by
  obtain ⟨grown, hgrown⟩ := exists_append (c.message f.config.identity) h
  obtain ⟨f', hf', hremote, hconfig⟩ := call_of_append hgrown
  have hentries := remote_entries_append hgrown
  refine ⟨f', hf', ?_, ?_, hconfig.trans (grows_append hgrown).config⟩
  · rw [hremote, hentries]
    rfl
  · rw [hremote, Graph.newestSeq_of_append hentries]

theorem call_eq_error (c : Call) (h : Count.bound ≤ f.remote.newestSeq + 1) :
    f.call c = .error .addOverflow :=
  call_of_append_eq_error (append_eq_error _ h)

/-! ### Many calls -/

/-- **Many calls** add their messages one after the other, as long as there are numbers. -/
theorem exists_callAll (calls : List Call)
    (h : f.remote.newestSeq + calls.length < Count.bound) :
    ∃ f' is, f.callAll calls = .ok (f', is) ∧
      is.map MessageIndex.seq = List.range' (f.remote.newestSeq + 1) calls.length ∧
      f'.remote.entries = f.remote.entries ++ f.added is calls := by
  induction calls generalizing f with
  | nil => exact ⟨f, [], rfl, rfl, (List.append_nil _).symm⟩
  | cons c calls ih =>
    rw [List.length_cons] at h
    have hnext : f.remote.newestSeq + 1 < Count.bound := by omega
    obtain ⟨g, hcall, hentries, hseq, hconfig⟩ := f.exists_call c hnext
    have hrest : g.remote.newestSeq + calls.length < Count.bound := by
      rw [hseq]
      omega
    obtain ⟨f', is, hcalls, hseqs, hmore⟩ := ih hrest
    refine ⟨f', ⟨_, hnext⟩ :: is, ?_, ?_, ?_⟩
    · simp only [callAll, hcall, hcalls, bind, Except.bind]
      rfl
    · rw [List.map_cons, hseqs, hseq, List.length_cons, List.range'_succ]
    · rw [hmore, hentries, added, added, added, hconfig, List.append_assoc]
      rfl

theorem callAll_eq_error (calls : List Call)
    (h : Count.bound ≤ f.remote.newestSeq + calls.length) :
    f.callAll calls = .error .addOverflow := by
  induction calls generalizing f with
  | nil => exact absurd f.remote.newestSeq_lt (Nat.not_lt.2 h)
  | cons c calls ih =>
    rw [List.length_cons] at h
    by_cases hnext : f.remote.newestSeq + 1 < Count.bound
    · obtain ⟨g, hcall, -, hseq, -⟩ := f.exists_call c hnext
      have hrest : Count.bound ≤ g.remote.newestSeq + calls.length := by
        rw [hseq]
        omega
      simp only [callAll, hcall, ih hrest, bind, Except.bind]
    · rw [callAll, call_eq_error c (Nat.not_lt.1 hnext)]
      rfl

/-- Indices numbered on from the newest one continue the order. -/
theorem pairwise_append_numbered {g : Graph} {is : List MessageIndex} {n : Nat}
    (h : is.map MessageIndex.seq = List.range' (g.newestSeq + 1) n) :
    (g.keys ++ is).Pairwise (· < ·) := by
  have hnew : is.Pairwise (· < ·) := by
    have hseqs : (is.map MessageIndex.seq).Pairwise (· < ·) := by
      rw [h]
      exact List.pairwise_lt_range'
    exact (List.pairwise_map (f := MessageIndex.seq)).1 hseqs
  refine List.pairwise_append.2 ⟨g.keys_pairwise, hnew, fun j hj i hi => ?_⟩
  have hmem := List.mem_map_of_mem (f := MessageIndex.seq) hi
  rw [h, List.mem_range'_1] at hmem
  exact Nat.lt_of_le_of_lt (Graph.seq_le_newestSeq hj) hmem.1

/-- **The order of a history.** A history that was read holds the entries of the text, in order of
their indices. Then messages arrive and are sent. All calls are answered just if there are numbers
for them, and otherwise a sum overflows. Their indices are numbered on from the newest one, so each
is greater than all before it. The messages are put at the end under these indices, the history
stays in order, and halving finds the places in it. -/
theorem callAll_increasing {text : String} (h : History.load text = .ok f.remote)
    (calls : List Call) :
    (∃ es, History.entries? text = some es ∧
      f.remote.entries.Perm (es.map fun e => ⟨e.1, e.2⟩)) ∧
    f.remote.keys.Pairwise (· < ·) ∧
    ((∃ f' is, f.callAll calls = .ok (f', is)) ↔
      f.remote.newestSeq + calls.length < Count.bound) ∧
    (∀ e, f.callAll calls = .error e → e = .addOverflow) ∧
    ∀ f' is, f.callAll calls = .ok (f', is) →
      is.map MessageIndex.seq = List.range' (f.remote.newestSeq + 1) calls.length ∧
      f'.remote.entries = f.remote.entries ++ f.added is calls ∧
      (f.remote.keys ++ is).Pairwise (· < ·) ∧
      ∀ i,
        partitionPoint (fun p => f'.remote.entries[p]?.any (·.index < i)) 0 f'.remote.size =
          f'.remote.rank i ∧
        partitionPoint (fun p => f'.remote.entries[p]?.any (·.index ≤ i)) 0 f'.remote.size =
          f'.rankAfter i := by
  refine ⟨History.perm_of_load h, f.remote.keys_pairwise, ?_⟩
  rcases Nat.lt_or_ge (f.remote.newestSeq + calls.length) Count.bound with hlt | hge
  · obtain ⟨g, is, hcalls, hseqs, hentries⟩ := exists_callAll calls hlt
    refine ⟨iff_of_true ⟨g, is, hcalls⟩ hlt, fun e he => ?_, fun f' is' hf' => ?_⟩
    · rw [hcalls] at he
      cases he
    · rw [hcalls] at hf'
      cases hf'
      exact ⟨hseqs, hentries, pairwise_append_numbered hseqs, fun i =>
        ⟨(g.remote.rank_eq_partitionPoint i).symm, (g.rankAfter_eq_partitionPoint i).symm⟩⟩
  · have hcalls := callAll_eq_error calls hge
    refine ⟨iff_of_false ?_ (Nat.not_lt.2 hge), fun e he => ?_, fun f' is hf' => ?_⟩
    · rintro ⟨f', is, hf'⟩
      rw [hcalls] at hf'
      cases hf'
    · rw [hcalls] at he
      exact (Except.error.inj he).symm
    · rw [hcalls] at hf'
      cases hf'

/-- Two messages, the newest under the last number but two, and two calls. -/
theorem callAll_increasing_two : ∃ (text : String) (f f' : Feed) (is : List MessageIndex)
    (now : Instant), History.load text = .ok f.remote ∧ f.remote.size = 2 ∧
      f.callAll [.receive "bus" "hi" now, .send "ack" now] = .ok (f', is) ∧
        is.map MessageIndex.seq = [Count.bound - 2, Count.bound - 1] := by
  let text := "[\x7b\"index\":18446744073709551613,\"kind\":\"deleted\"\x7d," ++
    "\x7b\"index\":7,\"kind\":\"deleted\"\x7d]"
  let now : Instant := ⟨⟨2025, 6, 1⟩, 0, 0⟩
  have hload : (History.load text).toOption.any (fun g =>
      decide (g.size = 2 ∧ g.newestSeq = Count.bound - 3)) = true := by decide +kernel
  cases hg : History.load text with
  | error e =>
    rw [hg] at hload
    cases hload
  | ok g =>
    rw [hg] at hload
    obtain ⟨hsize, hnewest⟩ := of_decide_eq_true hload
    obtain ⟨-, -, hanswered, -, hcalls⟩ := callAll_increasing (f := { remote := g }) hg
      [.receive "bus" "hi" now, .send "ack" now]
    obtain ⟨f', is, hf'⟩ := hanswered.2 (by dsimp only; rw [hnewest]; decide)
    obtain ⟨hseqs, -⟩ := hcalls f' is hf'
    refine ⟨text, _, f', is, now, hg, hsize, hf', hseqs.trans ?_⟩
    dsimp only
    rw [hnewest]
    rfl

/-- A history that was read, and a message that finds no number. -/
theorem exists_call_overflow : ∃ (text : String) (f : Feed) (now : Instant),
    History.load text = .ok f.remote ∧
      f.receive "bus" "hi" now = .error .addOverflow := by
  let text := "[\x7b\"index\":18446744073709551615,\"kind\":\"deleted\"\x7d]"
  have hload : (History.load text).toOption.any (fun g =>
      decide (g.newestSeq = Count.bound - 1)) = true := by decide +kernel
  cases hg : History.load text with
  | error e =>
    rw [hg] at hload
    cases hload
  | ok g =>
    rw [hg] at hload
    have hnewest := of_decide_eq_true hload
    refine ⟨text, { remote := g }, ⟨⟨2025, 6, 1⟩, 0, 0⟩, hg, append_eq_error _ ?_⟩
    dsimp only
    rw [hnewest]
    decide

end Feed

end Scrollback
