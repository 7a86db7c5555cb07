import Mathlib.Data.List.DropRight
import Scrollback.Proofs.Graph.Lookup
import Scrollback.Proofs.Graph.Slice
/-!
# The unread boundary among the newest messages

The unread boundary is the oldest post among the newest loaded entries. Older entries do not bear on
it, so that a loaded part that ends where the history ends has the history's boundary.

## Main definitions

* `Graph.newest` — the newest indices of a graph.
* `Graph.OldestPost` — the oldest post among some indices.

## Main statements

* `Graph.unreadBoundary?_of_suffix` — older entries do not bear on the boundary.
* `Graph.oldest_of_unreadBoundary?` — the boundary is the oldest post among the newest entries.
-/

namespace Scrollback

theorem Node.isDeleted_acknowledged (x : Node) : x.acknowledged.isDeleted = x.isDeleted := by
  cases x <;> rfl

namespace Graph

variable {g r : Graph} {n : Nat} {i j : MessageIndex}

/-- The newest indices, so many of them as far as there are. -/
def newest (g : Graph) (n : Nat) : List MessageIndex := g.keys.rtake n

/-- An index is that of the oldest post among some. -/
structure OldestPost (g : Graph) (is : List MessageIndex) (i : MessageIndex) : Prop where
  mem : i ∈ is
  isPost : g.isPost i = true
  le : ∀ j ∈ is, g.isPost j = true → i ≤ j

/-- There is a boundary only where so many messages are held. -/
theorem unreadBoundary?_eq_some_iff : g.unreadBoundary? n = some i ↔ 0 < n ∧ n ≤ g.size ∧
    ((g.entries.drop (g.size - n)).find? (!·.node.isDeleted)).map Entry.index = some i := by
  rw [unreadBoundary?]
  split
  · next h =>
    constructor
    · intro hi
      cases hi
    · intro hn
      omega
  · next h =>
    refine ⟨fun hi => ⟨by omega, by omega, hi⟩, fun hi => hi.2.2⟩

@[simp] theorem unreadBoundary?_zero (g : Graph) : g.unreadBoundary? 0 = none :=
  if_pos (.inl rfl)

/-- Entries that are older than the newest `n` do not bear on the boundary. -/
theorem unreadBoundary?_of_suffix {pre : List Entry} (h : r.entries = pre ++ g.entries)
    (hn : n ≤ g.size) : g.unreadBoundary? n = r.unreadBoundary? n := by
  have hsize : r.size = pre.length + g.size := by rw [size, h, List.length_append, size]
  have hdrop : r.entries.drop (r.size - n) = g.entries.drop (g.size - n) := by
    rw [h, List.drop_append, List.drop_eq_nil_of_le (by omega), List.nil_append]
    congr 1
    omega
  have hcond : (n = 0 ∨ g.size < n) ↔ (n = 0 ∨ r.size < n) := by omega
  simp only [unreadBoundary?, hdrop, hcond]

/-! ## The oldest post -/

/-- An entry is a post where it has not been deleted. -/
theorem isPost_iff {e : Entry} (he : e ∈ g.entries) :
    g.isPost e.index = true ↔ e.node.isDeleted = false := by
  have hget : g.get? e.index = some e.node := get?_eq_some_iff.2 he
  rw [isPost, post?, hget, Option.bind_some]
  cases e.node <;> simp [Node.message?, Node.isDeleted]

/-- There is a post at an index where an entry has it that was not deleted. -/
theorem isPost_iff_exists : g.isPost i = true ↔
    ∃ n, (⟨i, n⟩ : Entry) ∈ g.entries ∧ n.isDeleted = false := by
  constructor
  · intro h
    cases hget : g.get? i with
    | none =>
      rw [isPost, post?, hget] at h
      cases h
    | some n =>
      have he := get?_eq_some_iff.1 hget
      exact ⟨n, he, (isPost_iff he).1 h⟩
  · rintro ⟨n, he, hn⟩
    exact (isPost_iff he).2 hn

/-- A post is held. -/
theorem mem_keys_of_isPost (h : g.isPost i = true) : i ∈ g.keys := by
  obtain ⟨n, he, -⟩ := isPost_iff_exists.1 h
  exact List.mem_map_of_mem he

/-- New entries do not bear on the posts among the others. -/
theorem isPost_of_append {es : List Entry} (h : r.entries = g.entries ++ es)
    (hi : ∀ e ∈ es, e.index ≠ i) : r.isPost i = g.isPost i := by
  have hmem (n : Node) : (⟨i, n⟩ : Entry) ∈ r.entries ↔ ⟨i, n⟩ ∈ g.entries := by
    rw [h, List.mem_append]
    exact or_iff_left fun he => hi _ he rfl
  rw [Bool.eq_iff_iff, isPost_iff_exists, isPost_iff_exists]
  simp only [hmem]

theorem isPost_acknowledge (g : Graph) (k i : MessageIndex) :
    (g.acknowledge k).isPost i = g.isPost i := by
  rw [Bool.eq_iff_iff, isPost_iff_exists, isPost_iff_exists]
  simp only [acknowledge, modify, List.mem_map]
  constructor
  · rintro ⟨n, ⟨e, he, heq⟩, hn⟩
    split at heq
    · cases heq
      exact ⟨e.node, he, e.node.isDeleted_acknowledged ▸ hn⟩
    · cases heq
      exact ⟨n, he, hn⟩
  · rintro ⟨n, he, hn⟩
    by_cases hk : i = k
    · exact ⟨n.acknowledged, ⟨_, he, if_pos hk⟩, n.isDeleted_acknowledged.trans hn⟩
    · exact ⟨n, ⟨_, he, if_neg hk⟩, hn⟩

/-- **The boundary is the oldest post** among the newest messages. -/
theorem oldest_of_unreadBoundary? (h : g.unreadBoundary? n = some i) :
    g.OldestPost (g.newest n) i := by
  obtain ⟨-, -, h⟩ := unreadBoundary?_eq_some_iff.1 h
  obtain ⟨e, hfind, rfl⟩ := Option.map_eq_some_iff.1 h
  have hnewest : g.newest n = (g.entries.drop (g.size - n)).map Entry.index := by
    rw [newest, List.rtake, ← size_eq_length_keys, keys, List.map_drop]
  obtain ⟨hpost, before, after, hsplit, hbefore⟩ := List.find?_eq_some_iff_append.1 hfind
  have hsorted : Entry.Sorted (before ++ e :: after) :=
    hsplit ▸ g.sorted.sublist (List.drop_sublist _ _)
  have hmem (x : Entry) (hx : x ∈ before ++ e :: after) : x ∈ g.entries :=
    List.mem_of_mem_drop (hsplit ▸ hx)
  have he : e ∈ before ++ e :: after := List.mem_append_right _ (List.mem_cons_self ..)
  rw [hnewest, hsplit]
  refine ⟨List.mem_map_of_mem he, (isPost_iff (hmem e he)).2 (by simpa using hpost), ?_⟩
  intro j hj hjpost
  obtain ⟨x, hx, rfl⟩ := List.mem_map.1 hj
  have hxpost := (isPost_iff (hmem x hx)).1 hjpost
  rcases List.mem_append.1 hx with hx' | hx'
  · -- nothing before the boundary is a post
    have hdeleted := hbefore x hx'
    rw [hxpost] at hdeleted
    cases hdeleted
  · rcases List.mem_cons.1 hx' with rfl | hx'
    · exact Nat.le_refl _
    · have hlt := (List.pairwise_cons.1 (List.pairwise_append.1 hsorted).2.1).1 x hx'
      exact Nat.le_of_lt hlt

/-- The boundary is a post. -/
theorem isPost_of_unreadBoundary? (h : g.unreadBoundary? n = some i) : g.isPost i = true :=
  (oldest_of_unreadBoundary? h).isPost

/-- A post with `n` newer entries is the boundary of `n + 1` unread messages. -/
theorem unreadBoundary?_of_append {pre es : List Entry} {e : Entry}
    (h : g.entries = pre ++ e :: es) (he : e.node.isDeleted = false) :
    g.unreadBoundary? (es.length + 1) = some e.index := by
  have hsize : g.size = pre.length + (es.length + 1) := by
    rw [size, h, List.length_append, List.length_cons]
  refine unreadBoundary?_eq_some_iff.2 ⟨Nat.succ_pos _, by omega, ?_⟩
  have hstart : g.size - (es.length + 1) = pre.length := by omega
  rw [hstart, h, List.drop_left, List.find?_cons_of_pos (by simp [he]), Option.map_some]

/-- The oldest of the newest messages is their boundary if it is a post. -/
theorem unreadBoundary?_of_keys {is : List MessageIndex} (h : i :: is <:+ g.keys)
    (hi : g.isPost i = true) : g.unreadBoundary? (is.length + 1) = some i := by
  obtain ⟨pre, hkeys⟩ := h
  obtain ⟨before, after, hentries, -, hafter⟩ := List.map_eq_append_iff.1 hkeys.symm
  obtain ⟨e, es, rfl, rfl, rfl⟩ := List.map_eq_cons_iff.1 hafter
  have he : e ∈ g.entries := by
    rw [hentries]
    exact List.mem_append_right _ (List.mem_cons_self ..)
  rw [List.length_map]
  exact unreadBoundary?_of_append hentries ((isPost_iff he).1 hi)

end Graph

end Scrollback
