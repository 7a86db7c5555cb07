import Scrollback.Proofs.Feed.Contiguous
import Scrollback.Proofs.Graph.Boundary
/-!
# What a feed keeps

All that happens to a feed leaves the loaded part what it was or adds to it, but for one thing: a
jump to the newest message that finds the loaded part too old exchanges it. So once the loaded
part has come to the start of the history, it stays there until it is exchanged.

## Main definitions

* `Feed.Continues`, `Feed.Grows` — from one feed to the next, the history loses nothing, and
  neither does the loaded part.
* `Feed.Counts` — nothing happens but that requests are counted.
* `Feed.ReachesStart` — there is no older message to load.

## Main statements

* `Feed.settle_cases` — how a page request settles.
* `Feed.reachesStart_of_settle` — a page that tells that nothing is left does not err.
* `Feed.exists_settle_error_iff` — when a page request ends without an answer.
-/

namespace Scrollback.Feed

variable {f f' g : Feed} {a b : Nat} {d : Direction}

/-- From one feed to the next the configuration stays, no request is uncounted, the history loses
nothing, no message of it is deleted or brought back, and the loaded part stays a slice of it. -/
structure Continues (f f' : Feed) : Prop where
  config : f'.config = f.config
  requests : f.requests ≤ f'.requests
  keys : f.remote.keys <+: f'.remote.keys
  posts : ∀ i ∈ f.remote.keys, f'.remote.isPost i = f.remote.isPost i
  exists_spans : (∃ a b, f.Spans a b) → ∃ a b, f'.Spans a b

/-- The loaded part loses nothing either. -/
structure Grows (f f' : Feed) : Prop extends Continues f f' where
  spans : ∀ a b, a < b → f.Spans a b → ∃ a' b', a' ≤ a ∧ b ≤ b' ∧ f'.Spans a' b'

theorem Continues.size_le (h : Continues f f') : f.remote.size ≤ f'.remote.size := by
  have hlength := h.keys.length_le
  rwa [Graph.keys, Graph.keys, List.length_map, List.length_map] at hlength

theorem Continues.trans (h : Continues f f') (k : Continues f' g) : Continues f g where
  config := k.config.trans h.config
  requests := Nat.le_trans h.requests k.requests
  keys := h.keys.trans k.keys
  posts := fun i hi => (k.posts i (h.keys.subset hi)).trans (h.posts i hi)
  exists_spans := fun hs => k.exists_spans (h.exists_spans hs)

theorem Grows.refl (f : Feed) : Grows f f where
  config := rfl
  requests := Nat.le_refl _
  keys := List.prefix_rfl
  posts := fun _ _ => rfl
  exists_spans := id
  spans := fun a b _ h => ⟨a, b, Nat.le_refl a, Nat.le_refl b, h⟩

theorem Grows.trans (h : Grows f f') (k : Grows f' g) : Grows f g where
  toContinues := h.toContinues.trans k.toContinues
  spans := fun a b hab hs => by
    obtain ⟨a', b', ha, hb, hs'⟩ := h.spans a b hab hs
    obtain ⟨a'', b'', ha', hb', hs''⟩ := k.spans a' b' (by omega) hs'
    exact ⟨a'', b'', Nat.le_trans ha' ha, Nat.le_trans hb hb', hs''⟩

/-- What leaves history and loaded part alone loses nothing. -/
theorem Grows.of_eq (hr : f'.remote = f.remote) (hl : f'.loaded = f.loaded)
    (hc : f'.config = f.config) (hn : f.requests ≤ f'.requests) : Grows f f' where
  config := hc
  requests := hn
  keys := hr ▸ List.prefix_rfl
  posts := fun _ _ => by rw [hr]
  exists_spans := fun ⟨a, b, h⟩ => ⟨a, b, h.congr hr hl⟩
  spans := fun a b _ h => ⟨a, b, Nat.le_refl a, Nat.le_refl b, h.congr hr hl⟩

/-! ## Operations -/

/-- A new message is the last of the history. -/
theorem remote_entries_append {m : Message} {i : MessageIndex} (hf : f.append m = .ok (f', i)) :
    f'.remote.entries = f.remote.entries ++ [⟨i, .post m⟩] := by
  obtain ⟨hlt, rfl⟩ := append_eq_ok hf
  exact Graph.entries_insert_of_forall_lt _ hlt

theorem remote_keys_append {m : Message} {i : MessageIndex} (hf : f.append m = .ok (f', i)) :
    f'.remote.keys = f.remote.keys ++ [i] := by
  rw [Graph.keys, remote_entries_append hf, List.map_append]
  rfl

theorem lt_of_append {m : Message} {i : MessageIndex} (hf : f.append m = .ok (f', i)) :
    ∀ j ∈ f.remote.keys, j < i := by
  intro j hj
  obtain ⟨e, he, rfl⟩ := Graph.mem_keys_iff.1 hj
  exact (append_eq_ok hf).1 e he

theorem isPost_of_append {m : Message} {i : MessageIndex} (hf : f.append m = .ok (f', i)) :
    f'.remote.isPost i = true := by
  refine Graph.isPost_iff_exists.2 ⟨.post m, ?_, rfl⟩
  rw [remote_entries_append hf]
  exact List.mem_append_right _ (List.mem_singleton_self _)

theorem grows_append {m : Message} {i : MessageIndex} (hf : f.append m = .ok (f', i)) :
    Grows f f' where
  config := by rw [(append_eq_ok hf).2]
  requests := by rw [(append_eq_ok hf).2]
  keys := ⟨[i], (remote_keys_append hf).symm⟩
  posts := fun j hj => by
    refine Graph.isPost_of_append (remote_entries_append hf) ?_
    intro e he
    rw [List.mem_singleton.1 he]
    exact (MessageIndex.ne_of_lt (lt_of_append hf j hj)).symm
  exists_spans := fun ⟨a, _, h⟩ => ⟨a, _, h.append hf⟩
  spans := fun a b _ h => by
    refine ⟨a, _, Nat.le_refl a, ?_, h.append hf⟩
    split
    · exact Nat.le_succ_of_le h.le_size
    · exact Nat.le_refl b

theorem grows_receive {author text : String} {now : Instant} {i : MessageIndex}
    (hf : f.receive author text now = .ok (f', i)) : Grows f f' := grows_append hf

theorem grows_send {text : String} {now : Instant} {sent : PendingSend}
    (hf : f.send text now = .ok (f', sent)) : Grows f f' := by
  obtain ⟨m, grown, happend, hr, hl, hc, hn⟩ := exists_append_of_send hf
  exact (grows_append happend).trans (.of_eq hr hl hc (Nat.le_of_eq hn.symm))

theorem acknowledge_keys (f : Feed) (sent : PendingSend) :
    (f.acknowledge sent).1.remote.keys = f.remote.keys := by
  rw [acknowledge]
  split
  · exact Graph.keys_acknowledge _ _
  · rfl

theorem acknowledge_loaded_keys (f : Feed) (sent : PendingSend) :
    (f.acknowledge sent).1.loaded.keys = f.loaded.keys := by
  rw [acknowledge]
  split
  · exact Graph.keys_acknowledge _ _
  · rfl

theorem grows_acknowledge (f : Feed) (sent : PendingSend) : Grows f (f.acknowledge sent).1 where
  config := by
    rw [acknowledge]
    split <;> rfl
  requests := by
    rw [acknowledge]
    split <;> exact Nat.le_refl _
  keys := (acknowledge_keys f sent).symm ▸ List.prefix_rfl
  posts := fun i _ => by
    rw [acknowledge]
    split
    · exact Graph.isPost_acknowledge _ _ _
    · rfl
  exists_spans := fun ⟨a, b, h⟩ => ⟨a, b, h.acknowledge sent⟩
  spans := fun a b _ h => ⟨a, b, Nat.le_refl a, Nat.le_refl b, h.acknowledge sent⟩

theorem requests_serve {o : FetchOutcome} (hf : f.serve d = .ok (f', o)) :
    f'.requests = f.requests := by
  obtain ⟨bounds, -, heq⟩ := Checked.bind_eq_ok.1 hf
  cases heq
  rfl

theorem grows_serve {o : FetchOutcome} (hf : f.serve d = .ok (f', o)) : Grows f f' where
  config := (serve_frame hf).2
  requests := Nat.le_of_eq (requests_serve hf).symm
  keys := (serve_frame hf).1 ▸ List.prefix_rfl
  posts := fun _ _ => by rw [(serve_frame hf).1]
  exists_spans := fun ⟨_, _, h⟩ => h.exists_serve hf
  spans := fun a b hab h => by
    have hb := h.le_size
    cases d with
    | older => exact ⟨_, b, Nat.sub_le _ _, Nat.le_refl b, (h.serve_older hab hf).1⟩
    | newer => exact ⟨a, _, Nat.le_refl a, by omega, (h.serve_newer hab hf).1⟩

theorem requests_jumpToLatest (f : Feed) : f.jumpToLatest.1.requests = f.requests := by
  rw [jumpToLatest]
  split <;> rfl

theorem continues_jumpToLatest (f : Feed) : Continues f f.jumpToLatest.1 where
  config := f.jumpToLatest_frame.2
  requests := Nat.le_of_eq f.requests_jumpToLatest.symm
  keys := f.jumpToLatest_frame.1.symm ▸ List.prefix_rfl
  posts := fun _ _ => by rw [f.jumpToLatest_frame.1]
  exists_spans := fun ⟨_, _, hs⟩ => ⟨_, _, hs.exists_jumpToLatest.choose_spec⟩

/-- A jump that joins the newest page to the loaded part loses nothing. -/
theorem grows_jumpToLatest (h : f.jumpToLatest.2 ≠ .replaced) : Grows f f.jumpToLatest.1 where
  toContinues := f.continues_jumpToLatest
  spans := fun a b hab hs => by
    cases hpage : f.jumpToLatest with
    | mk f' page =>
      cases page with
      | replaced => rw [hpage] at h; exact absurd rfl h
      | extended added =>
        exact ⟨_, _, Nat.min_le_left _ _, hs.le_size, (hs.jumpToLatest_extended hab hpage).2⟩

/-! ## Requests -/

/-- From one feed to the next nothing changes but that requests are counted. -/
structure Counts (f f' : Feed) : Prop where
  requests : f.requests ≤ f'.requests
  eq : f' = { f with requests := f'.requests }

theorem Counts.refl (f : Feed) : Counts f f := ⟨Nat.le_refl _, rfl⟩

theorem Counts.remote (h : Counts f f') : f'.remote = f.remote := by rw [h.eq]

theorem Counts.loaded (h : Counts f f') : f'.loaded = f.loaded := by rw [h.eq]

theorem Counts.grows (h : Counts f f') : Grows f f' :=
  .of_eq h.remote h.loaded (by rw [h.eq]) h.requests

/-- The feed after a request has been counted. -/
def counted (f : Feed) : Feed := { f with requests := f.requests + 1 }

theorem counts_counted (f : Feed) : Counts f f.counted := ⟨Nat.le_succ _, rfl⟩

theorem grows_counted (f : Feed) : Grows f f.counted := f.counts_counted.grows

/-- A request is counted if there is a number left for it. -/
theorem count_eq (f : Feed) :
    f.count = if f.requests + 1 < requestBound then .ok f.counted else .error .addOverflow := by
  rw [count, Count.addBelow]
  split <;> rfl

/-- A request that is counted fails, or a page is served, or the bounds of the page fault. -/
theorem reply_cases (f : Feed) (d : Direction) :
    (∃ e, f.reply d = (f, .ok (.failed e))) ∨
      (∃ g o, f.serve d = .ok (g, o) ∧ f.remote.isEmpty = false ∧
        f.reply d = (g, .ok (.loaded o))) ∨
      ∃ fault, f.serve d = .error fault ∧ f.reply d = (f, .error fault) := by
  rw [reply]
  split
  · exact .inl ⟨_, rfl⟩
  · split
    · exact .inl ⟨_, rfl⟩
    · next hempty =>
      cases hserve : f.serve d with
      | ok p => exact .inr (.inl ⟨p.1, p.2, rfl, eq_false_of_ne_true hempty, rfl⟩)
      | error fault => exact .inr (.inr ⟨fault, rfl, rfl⟩)

/-- A request fails and loads nothing, or a page is served, or there is no answer. -/
theorem settle_cases (f : Feed) (d : Direction) :
    (∃ g e, Counts f g ∧ f.settle d = (g, .ok (.failed e))) ∨
      (∃ g o, f.counted.serve d = .ok (g, o) ∧ f.remote.isEmpty = false ∧
        f.settle d = (g, .ok (.loaded o))) ∨
      ∃ g fault, Counts f g ∧ f.settle d = (g, .error fault) := by
  rw [settle]
  split
  · exact .inl ⟨f, _, .refl f, rfl⟩
  · rw [answer, count_eq]
    split
    · next heq =>
      split at heq
      · cases heq
        rcases f.counted.reply_cases d with ⟨e, hreply⟩ | hserved | ⟨fault, -, hreply⟩
        · exact .inl ⟨_, e, f.counts_counted, hreply⟩
        · exact .inr (.inl hserved)
        · exact .inr (.inr ⟨_, fault, f.counts_counted, hreply⟩)
      · cases heq
    · exact .inr (.inr ⟨f, _, .refl f, rfl⟩)

theorem grows_settle (f : Feed) (d : Direction) : Grows f (f.settle d).1 := by
  rcases f.settle_cases d with ⟨g, e, hg, heq⟩ | ⟨g, o, hserve, -, heq⟩ | ⟨g, fault, hg, heq⟩
  · rw [heq]
    exact hg.grows
  · rw [heq]
    exact f.grows_counted.trans (grows_serve hserve)
  · rw [heq]
    exact hg.grows

/-- A page request leaves the history alone. -/
theorem settle_remote (f : Feed) (d : Direction) : (f.settle d).1.remote = f.remote := by
  rcases f.settle_cases d with ⟨g, e, hg, heq⟩ | ⟨g, o, hserve, -, heq⟩ | ⟨g, fault, hg, heq⟩
  · rw [heq]
    exact hg.remote
  · rw [heq]
    exact (serve_frame hserve).1
  · rw [heq]
    exact hg.remote

/-- Only a page toward newer messages can fault, and only where its end is no count. -/
theorem exists_serve_error_iff : (∃ fault, f.serve d = .error fault) ↔
    d = .newer ∧ Count.bound ≤ f.newerStart + f.config.pageSize := by
  cases d with
  | older => simp [serve_older_eq]
  | newer =>
    rw [serve_newer_eq]
    split
    · next hlt => simp [Nat.not_le.2 hlt]
    · next hge => simp [Nat.not_lt.1 hge]

theorem exists_reply_error_iff : (∃ fault, (f.reply d).2 = .error fault) ↔
    f.failsAt f.requests = false ∧ f.remote.isEmpty = false ∧
      ∃ fault, f.serve d = .error fault := by
  rw [reply]
  split
  · next hfails => simp [hfails]
  · next hfails =>
    split
    · next hempty => simp [hempty]
    · next hempty =>
      rw [and_iff_right (eq_false_of_ne_true hfails), and_iff_right (eq_false_of_ne_true hempty)]
      cases f.serve d with
      | ok p => simp
      | error fault => simp

/-- **When a request ends without an answer**: it is not given up before, and there is no number left
to count it by, or it is served a page toward newer messages that ends where there is no count. -/
theorem exists_settle_error_iff : (∃ fault, (f.settle d).2 = .error fault) ↔
    f.config.timesOut = false ∧ (requestBound ≤ f.requests + 1 ∨
      f.failsAt (f.requests + 1) = false ∧ f.remote.isEmpty = false ∧ d = .newer ∧
        Count.bound ≤ f.newerStart + f.config.pageSize) := by
  rw [settle]
  split
  · next htimes => simp [htimes]
  · next htimes =>
    rw [answer, count_eq, and_iff_right (eq_false_of_ne_true htimes)]
    rcases Nat.lt_or_ge (f.requests + 1) requestBound with hlt | hge
    · rw [if_pos hlt, or_iff_right (Nat.not_le.2 hlt)]
      exact exists_reply_error_iff.trans
        (and_congr_right fun _ => and_congr_right fun _ => exists_serve_error_iff)
    · rw [if_neg (Nat.not_lt.2 hge)]
      exact iff_of_true ⟨_, rfl⟩ (.inl hge)

/-! ## The start of the history -/

/-- Messages are loaded from the very first on. -/
def ReachesStart (f : Feed) : Prop := ∃ b, 0 < b ∧ f.Spans 0 b

theorem ReachesStart.grows (h : f.ReachesStart) (hg : Grows f f') : f'.ReachesStart := by
  obtain ⟨b, hb, hs⟩ := h
  obtain ⟨a', b', ha, hb', hs'⟩ := hg.spans 0 b hb hs
  obtain rfl := Nat.le_zero.1 ha
  exact ⟨b', by omega, hs'⟩

/-- The oldest loaded message is then the oldest of all. -/
theorem ReachesStart.smallest?_eq (h : f.ReachesStart) :
    f.loaded.smallest? = f.remote.smallest? := by
  obtain ⟨b, hb, hs⟩ := h
  obtain ⟨e, he, hsmall⟩ := hs.smallest? hb
  obtain ⟨e', he', hsmall'⟩ := f.remote.exists_first (by have := hs.le_size; omega)
  rw [he'] at he
  cases he
  rw [hsmall, hsmall']

/-- A page that tells that no older message is left has loaded the oldest one. -/
theorem reachesStart_of_settle (hspans : ∃ a b, f.Spans a b)
    (h : (f.settle .older).2 = .ok (.loaded .exhausted)) : (f.settle .older).1.ReachesStart := by
  rcases f.settle_cases .older with ⟨_, _, -, heq⟩ | ⟨f', o, hserve, hne, heq⟩ | ⟨_, _, -, heq⟩
  · rw [heq] at h
    cases h
  · rw [heq] at h ⊢
    cases h
    obtain ⟨a, b, hs⟩ := f.grows_counted.exists_spans hspans
    rcases Nat.lt_or_eq_of_le hs.le with hab | rfl
    · obtain ⟨hs', hall⟩ := hs.serve_older hab hserve
      rw [Nat.sub_eq_zero_of_le (hall.1 rfl)] at hs'
      exact ⟨b, by omega, hs'⟩
    · obtain ⟨hs', hall⟩ := serve_older_of_empty hs.entries_eq_nil hserve
      rw [Nat.sub_eq_zero_of_le (hall.1 rfl)] at hs'
      refine ⟨_, ?_, hs'⟩
      rw [Graph.isEmpty, List.isEmpty_eq_false_iff] at hne
      exact List.length_pos_iff.2 hne
  · rw [heq] at h
    cases h

end Scrollback.Feed
