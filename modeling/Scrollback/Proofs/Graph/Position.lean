import Mathlib.Data.List.Induction
import Scrollback.Fetch
import Scrollback.Proofs.Graph.Lookup
import Scrollback.Proofs.Graph.Slice
/-!
# Positions

The position of an index is its place among the loaded ones, and tells how many of them are newer.
Indices that join the loaded ones at their ends move all others by the same amount.

## Main definitions

* `Graph.newer` — how many loaded messages are newer than a given one.
* `Graph.gained` — the messages that have joined the loaded ones.
* `Graph.wayTo?` — the direction in which a message lies that is not loaded.

## Main statements

* `Graph.positionOf?_eq_some_iff` — a position is a place among the keys.
* `Graph.newer_eq` — how many messages are newer follows from the position.
* `Graph.newer_le_of_subset` — messages that join the loaded ones anywhere take no newer ones away.
-/

namespace Scrollback.Graph

variable {g r : Graph} {i j : MessageIndex} {p : Nat} {pre post : List MessageIndex}

theorem keys_pairwise (g : Graph) : g.keys.Pairwise (· < ·) := List.pairwise_map.2 g.sorted

/-- A position is a place among the keys. -/
theorem positionOf?_eq_some_iff : g.positionOf? i = some p ↔ g.keys[p]? = some i := by
  rw [positionOf?, List.findIdx?_eq_some_iff_getElem]
  constructor
  · rintro ⟨hp, hi, -⟩
    rw [keys, List.getElem?_map, List.getElem?_eq_getElem hp]
    exact congrArg some (of_decide_eq_true hi)
  · intro hi
    rw [keys, List.getElem?_map] at hi
    obtain ⟨e, he, rfl⟩ := Option.map_eq_some_iff.1 hi
    obtain ⟨hp, rfl⟩ := List.getElem?_eq_some_iff.1 he
    refine ⟨hp, decide_eq_true rfl, ?_⟩
    intro j hj heq
    -- the keys before stand in front of it
    have hlt := List.pairwise_iff_getElem.1 g.sorted j p (Nat.lt_trans hj hp) hp hj
    exact MessageIndex.ne_of_lt hlt (of_decide_eq_true heq)

theorem keyAt?_eq (g : Graph) (p : Nat) : g.keyAt? p = g.keys[p]? := by
  rw [keyAt?, entryAt?, keys, List.getElem?_map]

theorem largest?_eq_getElem?_keys (g : Graph) : g.largest? = g.keys[g.size - 1]? := by
  rw [largest?_eq_getLast?_keys, List.getLast?_eq_getElem?, size_eq_length_keys]

theorem exists_position (h : g.contains i = true) : ∃ p : Nat, g.keys[p]? = some i :=
  List.mem_iff_getElem?.1 (contains_iff_mem_keys.1 h)

/-- How many loaded messages are newer than the one at an index. -/
def newer (g : Graph) (i : MessageIndex) : Nat := g.keys.countP fun j => decide (i < j)

/-- The newer messages are those at the positions after it. -/
theorem newer_eq (h : g.keys[p]? = some i) : g.newer i = g.size - 1 - p := by
  obtain ⟨hp, hi⟩ := List.getElem?_eq_some_iff.1 h
  have hsplit : g.keys = g.keys.take p ++ i :: g.keys.drop (p + 1) := by
    rw [← hi, ← List.drop_eq_getElem_cons hp, List.take_append_drop]
  have hsorted := g.keys_pairwise
  rw [hsplit, List.pairwise_append, List.pairwise_cons] at hsorted
  obtain ⟨-, ⟨hafter, -⟩, hbefore⟩ := hsorted
  have hnone : (g.keys.take p).countP (fun j => decide (i < j)) = 0 := by
    rw [List.countP_eq_zero]
    intro j hj hlt
    have hji := hbefore j hj i (List.mem_cons_self ..)
    exact MessageIndex.lt_irrefl i (MessageIndex.lt_trans (of_decide_eq_true hlt) hji)
  have hall : (g.keys.drop (p + 1)).countP (fun j => decide (i < j)) = g.keys.length - (p + 1) := by
    rw [← List.length_drop, List.countP_eq_length]
    intro j hj
    exact decide_eq_true (hafter j hj)
  have hself : decide (i < i) = false := decide_eq_false (MessageIndex.lt_irrefl i)
  rw [newer, hsplit, List.countP_append, List.countP_cons, hnone, hall, hself,
    size_eq_length_keys]
  simp only [Bool.false_eq_true, if_false]
  omega

/-- Messages that join the loaded ones at their ends move all others by the same amount. -/
theorem getElem?_keys_of_append (hkeys : r.keys = pre ++ g.keys ++ post)
    (h : g.keys[p]? = some i) : r.keys[pre.length + p]? = some i := by
  obtain ⟨hp, hi⟩ := List.getElem?_eq_some_iff.1 h
  rw [hkeys, List.append_assoc, List.getElem?_append_right (by omega), Nat.add_sub_cancel_left,
    List.getElem?_append_left hp, h]

theorem keys_nodup (g : Graph) : g.keys.Nodup := by
  apply g.keys_pairwise.imp
  intro i j hlt
  exact MessageIndex.ne_of_lt hlt

/-- The newest message alone has none that is newer. -/
theorem newer_eq_zero_iff (h : g.keys[p]? = some i) : g.newer i = 0 ↔ g.largest? = some i := by
  obtain ⟨hp, -⟩ := List.getElem?_eq_some_iff.1 h
  rw [newer_eq h, largest?_eq_getElem?_keys, size_eq_length_keys]
  constructor
  · intro hnone
    have hend : g.keys.length - 1 = p := by omega
    rw [hend, h]
  · intro hi
    have hend := (List.getElem?_inj hp g.keys_nodup).1 (h.trans hi.symm)
    omega

/-! ## Messages that join the loaded ones -/

theorem mem_keys_insert {n : Node} {j : MessageIndex} :
    j ∈ (g.insert i n).keys ↔ j = i ∨ j ∈ g.keys := by
  simp only [mem_keys_iff, mem_insert]
  constructor
  · rintro ⟨e, rfl | ⟨he, -⟩, rfl⟩
    · exact .inl rfl
    · exact .inr ⟨e, he, rfl⟩
  · intro hj
    by_cases hji : j = i
    · exact ⟨⟨i, n⟩, .inl rfl, hji.symm⟩
    · obtain ⟨e, he, rfl⟩ := hj.resolve_left hji
      exact ⟨e, .inr ⟨he, hji⟩, rfl⟩

theorem keys_subset_insert (g : Graph) (i : MessageIndex) (n : Node) :
    g.keys ⊆ (g.insert i n).keys := fun _ hj => mem_keys_insert.2 (.inr hj)

/-- A page takes no message away, in whatever order its entries stand. -/
theorem keys_subset_extend (g : Graph) (page : List Entry) : g.keys ⊆ (g.extend page).1.keys := by
  rw [extend, foldl_extend_fst]
  induction page generalizing g with
  | nil => exact List.Subset.refl _
  | cons e page ih => exact List.Subset.trans (g.keys_subset_insert e.index e.node) (ih _)

theorem size_le_of_subset (h : g.keys ⊆ r.keys) : g.size ≤ r.size := by
  rw [size_eq_length_keys, size_eq_length_keys]
  exact (List.subperm_of_subset g.keys_nodup h).length_le

/-- Messages that join the loaded ones anywhere take no newer ones away. -/
theorem newer_le_of_subset (h : g.keys ⊆ r.keys) (i : MessageIndex) : g.newer i ≤ r.newer i :=
  (List.subperm_of_subset g.keys_nodup h).countP_le _

/-- Where no message has joined, the loaded ones are the same. -/
theorem keys_eq_of_subset (h : g.keys ⊆ r.keys) (hsize : r.size ≤ g.size) : r.keys = g.keys := by
  rw [size_eq_length_keys, size_eq_length_keys] at hsize
  have hperm := (List.subperm_of_subset g.keys_nodup h).perm_of_length_le hsize
  refine hperm.symm.eq_of_pairwise ?_ r.keys_pairwise g.keys_pairwise
  intro i j _ _ hij hji
  exact absurd (MessageIndex.lt_trans hij hji) (MessageIndex.lt_irrefl i)

theorem size_congr (h : r.keys = g.keys) : r.size = g.size := by
  rw [size_eq_length_keys, size_eq_length_keys, h]

theorem contains_congr (h : r.keys = g.keys) (i : MessageIndex) : r.contains i = g.contains i := by
  rw [Bool.eq_iff_iff, contains_iff_mem_keys, contains_iff_mem_keys, h]

theorem size_insert_le (g : Graph) (i : MessageIndex) (n : Node) :
    (g.insert i n).size ≤ g.size + 1 := by
  have hsub : (g.insert i n).keys ⊆ i :: g.keys := by
    intro j hj
    exact List.mem_cons.2 (mem_keys_insert.1 hj)
  have hle := (List.subperm_of_subset (g.insert i n).keys_nodup hsub).length_le
  rwa [List.length_cons, ← size_eq_length_keys, ← size_eq_length_keys] at hle

theorem size_extend_le (g : Graph) (page : List Entry) :
    (g.extend page).1.size ≤ g.size + page.length := by
  rw [extend, foldl_extend_fst]
  induction page generalizing g with
  | nil => exact Nat.le_refl _
  | cons e page ih =>
    have hrest := ih (g.insert e.index e.node)
    have hone := g.size_insert_le e.index e.node
    simp only [List.foldl_cons, List.length_cons]
    omega

/-- An insertion adds a message unless its index is held already. -/
theorem size_insert (g : Graph) (i : MessageIndex) (n : Node) :
    (g.insert i n).size = if g.contains i then g.size else g.size + 1 := by
  split
  · next hheld =>
    have hsub : (g.insert i n).keys ⊆ g.keys := by
      intro j hj
      rcases mem_keys_insert.1 hj with rfl | hj
      · exact contains_iff_mem_keys.1 hheld
      · exact hj
    exact Nat.le_antisymm (size_le_of_subset hsub) (size_le_of_subset (g.keys_subset_insert i n))
  · next hnew =>
    rw [contains_iff_mem_keys] at hnew
    have hsub : i :: g.keys ⊆ (g.insert i n).keys := by
      intro j hj
      exact mem_keys_insert.2 (List.mem_cons.1 hj)
    have hle := (List.subperm_of_subset (List.nodup_cons.2 ⟨hnew, g.keys_nodup⟩) hsub).length_le
    rw [List.length_cons, ← size_eq_length_keys, ← size_eq_length_keys] at hle
    exact Nat.le_antisymm (g.size_insert_le i n) hle

theorem extend_concat (g : Graph) (page : List Entry) (e : Entry) :
    g.extend (page ++ [e]) = ((g.extend page).1.insert e.index e.node,
      if (g.extend page).1.contains e.index then (g.extend page).2
      else (g.extend page).2 + 1) := by
  rw [extend, List.foldl_append]
  rfl

/-- A page tells how many messages it adds. -/
theorem size_extend (g : Graph) (page : List Entry) :
    (g.extend page).1.size = g.size + (g.extend page).2 := by
  induction page using List.reverseRecOn with
  | nil => rfl
  | append_singleton page e ih =>
    rw [extend_concat, size_insert]
    split
    · exact ih
    · dsimp only
      omega

/-- The messages that one graph holds and another one lacks. -/
def gained (g r : Graph) : List MessageIndex := r.keys.filter fun i => !g.contains i

/-- Where none of them is lost, the messages that were held before are the loaded ones. -/
theorem perm_filter_contains (h : g.keys ⊆ r.keys) : (r.keys.filter g.contains).Perm g.keys := by
  refine (List.perm_ext_iff_of_nodup (r.keys_nodup.filter _) g.keys_nodup).2 fun i => ?_
  rw [List.mem_filter, contains_iff_mem_keys]
  exact ⟨And.right, fun hi => ⟨h hi, hi⟩⟩

/-- Messages that join the loaded ones make up the difference in size. -/
theorem length_gained (h : g.keys ⊆ r.keys) : g.size + (g.gained r).length = r.size := by
  have hsplit := List.length_eq_length_filter_add (l := r.keys) g.contains
  rw [(perm_filter_contains h).length_eq, ← size_eq_length_keys, ← size_eq_length_keys] at hsplit
  exact hsplit.symm

/-- What joins the loaded messages adds to those that are newer than a given one just what is newer
itself. -/
theorem newer_of_subset (h : g.keys ⊆ r.keys) (i : MessageIndex) :
    r.newer i = g.newer i + (g.gained r).countP fun j => decide (i < j) := by
  rw [newer, List.countP_eq_countP_filter_add r.keys _ g.contains,
    (perm_filter_contains h).countP_eq]
  rfl

/-- What a page tells is how many messages were not held before it. -/
theorem length_gained_extend (g : Graph) (page : List Entry) :
    (g.gained (g.extend page).1).length = (g.extend page).2 := by
  have hgained := length_gained (g.keys_subset_extend page)
  rw [size_extend] at hgained
  exact Nat.add_left_cancel hgained

/-! ## The way to a message -/

theorem smallest?_eq_head?_keys (g : Graph) : g.smallest? = g.keys.head? := by
  rw [smallest?, keys, List.head?_map]

/-- No message is older than the oldest one. -/
theorem le_of_smallest? (h : g.smallest? = some j) (hi : i ∈ g.keys) : j ≤ i := by
  have hsorted := g.keys_pairwise
  obtain ⟨rest, hkeys⟩ := List.head?_eq_some_iff.1 ((smallest?_eq_head?_keys g).symm.trans h)
  rw [hkeys] at hsorted hi
  rcases List.mem_cons.1 hi with rfl | hi
  · exact Nat.le_refl _
  · exact Nat.le_of_lt (List.rel_of_pairwise_cons hsorted hi)

/-- No message is newer than the newest one. -/
theorem le_of_largest? (h : g.largest? = some j) (hi : i ∈ g.keys) : i ≤ j := by
  have hsorted := g.keys_pairwise
  obtain ⟨rest, hkeys⟩ := List.getLast?_eq_some_iff.1 ((largest?_eq_getLast?_keys g).symm.trans h)
  rw [hkeys] at hsorted hi
  rcases List.mem_append.1 hi with hi | hi
  · exact Nat.le_of_lt ((List.pairwise_append.1 hsorted).2.2 i hi j (List.mem_singleton_self j))
  · rw [List.mem_singleton.1 hi]
    exact Nat.le_refl _

/-- The direction in which a message lies that is not loaded. Where nothing is loaded, all that
there is is older. -/
def wayTo? (g : Graph) (i : MessageIndex) : Option Direction :=
  match g.smallest?, g.largest? with
  | some oldest, some newest =>
    if i < oldest then some .older else if newest < i then some .newer else none
  | _, _ => some .older

theorem wayTo?_congr (h : r.keys = g.keys) (i : MessageIndex) : r.wayTo? i = g.wayTo? i := by
  rw [wayTo?, wayTo?, smallest?_eq_head?_keys, smallest?_eq_head?_keys, largest?_eq_getLast?_keys,
    largest?_eq_getLast?_keys, h]

theorem wayTo?_of_size_eq_zero (h : g.size = 0) : g.wayTo? i = some .older := by
  rw [wayTo?, smallest?_eq_none_iff.2 h]

theorem wayTo?_eq_some_older (h : g.wayTo? i = some .older) (hsize : g.size ≠ 0) :
    ∃ oldest, g.smallest? = some oldest ∧ i < oldest := by
  rw [wayTo?] at h
  split at h
  · next oldest newest holdest hnewest =>
    refine ⟨oldest, holdest, ?_⟩
    by_contra hlt
    rw [if_neg hlt] at h
    split at h <;> cases h
  · next hnone =>
    obtain ⟨_, -, holdest⟩ := g.exists_first (Nat.pos_of_ne_zero hsize)
    obtain ⟨_, -, hnewest⟩ := g.exists_last (Nat.pos_of_ne_zero hsize)
    exact absurd hnewest (hnone _ _ holdest)

theorem wayTo?_eq_some_newer (h : g.wayTo? i = some .newer) :
    ∃ newest, g.largest? = some newest ∧ newest < i := by
  rw [wayTo?] at h
  split at h
  · next oldest newest holdest hnewest =>
    refine ⟨newest, hnewest, ?_⟩
    split at h
    · cases h
    · split at h
      · assumption
      · cases h
  · cases h

/-- A message lies in no direction just between the ends. -/
theorem wayTo?_eq_none (h : g.wayTo? i = none) : ∃ oldest newest, g.smallest? = some oldest ∧
    g.largest? = some newest ∧ oldest ≤ i ∧ i ≤ newest := by
  rw [wayTo?] at h
  split at h
  · next oldest newest holdest hnewest =>
    split at h
    · cases h
    · next hold =>
      split at h
      · cases h
      · next hnew =>
        exact ⟨oldest, newest, holdest, hnewest, Nat.le_of_not_lt hold, Nat.le_of_not_lt hnew⟩
  · cases h

end Scrollback.Graph
