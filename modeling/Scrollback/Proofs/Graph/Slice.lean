import Mathlib.Data.List.Sort
import Scrollback.Graph
/-!
# Slices of a graph

Entries in index order are known by their members alone, and a member by its index. A slice of a
graph is thus the set of its entries at some positions, and merging two slices that meet gives the
slice that reaches from the start of one to the end of the other.

## Main statements

* `Graph.mem_extend` — what a merged page adds and what it takes away.
* `Graph.entries_extend_slice` — slices that meet are joined without a hole.
* `Graph.rank_eq_of_entry` — the rank of an entry's index is the entry's position.
-/

namespace Scrollback

/-! ## Entries in index order -/

namespace Entry.Sorted

variable {es : List Entry} {a b : Entry} {i j : Nat}

/-- Positions and indices are ordered alike. -/
theorem index_lt_iff (hs : Sorted es) (ha : es[i]? = some a) (hb : es[j]? = some b) :
    a.index < b.index ↔ i < j := by
  obtain ⟨hi, rfl⟩ := List.getElem?_eq_some_iff.1 ha
  obtain ⟨hj, rfl⟩ := List.getElem?_eq_some_iff.1 hb
  have key := List.pairwise_iff_getElem.1 hs
  constructor
  · intro h
    by_contra hij
    rcases Nat.lt_or_eq_of_le (Nat.le_of_not_lt hij) with hlt | rfl
    · exact MessageIndex.lt_irrefl _ (MessageIndex.lt_trans h (key j i hj hi hlt))
    · exact MessageIndex.lt_irrefl _ h
  · exact key i j hi hj

theorem index_le_iff (hs : Sorted es) (ha : es[i]? = some a) (hb : es[j]? = some b) :
    a.index ≤ b.index ↔ i ≤ j := by
  have h := hs.index_lt_iff hb ha
  rw [MessageIndex.lt_def] at h
  rw [MessageIndex.le_def]
  omega

/-- An entry is found at one position only. -/
theorem position_eq (hs : Sorted es) (ha : es[i]? = some a) (hb : es[j]? = some b)
    (h : a.index = b.index) : i = j := by
  have hij := hs.index_le_iff ha hb
  have hji := hs.index_le_iff hb ha
  rw [MessageIndex.le_def, h] at hij
  rw [MessageIndex.le_def, h] at hji
  omega

/-- Two entries of one index are the same. -/
theorem eq_of_index_eq (hs : Sorted es) (ha : a ∈ es) (hb : b ∈ es) (h : a.index = b.index) :
    a = b := by
  obtain ⟨i, hi⟩ := List.mem_iff_getElem?.1 ha
  obtain ⟨j, hj⟩ := List.mem_iff_getElem?.1 hb
  have hij := hs.position_eq hi hj h
  subst hij
  exact Option.some.inj (hi.symm.trans hj)

/-- Entries in order are determined by which of them there are. -/
theorem eq_of_mem_iff {fs : List Entry} (hs : Sorted es) (ht : Sorted fs)
    (h : ∀ e, e ∈ es ↔ e ∈ fs) : es = fs := by
  have : Std.Irrefl fun a b : Entry => a.index < b.index :=
    ⟨fun a => MessageIndex.lt_irrefl a.index⟩
  have : Std.Antisymm fun a b : Entry => a.index < b.index :=
    ⟨fun _ _ hab hba => (MessageIndex.lt_irrefl _ (MessageIndex.lt_trans hab hba)).elim⟩
  exact List.Pairwise.eq_of_mem_iff hs ht h

end Entry.Sorted

/-- A prefix on which a test holds and after which it fails is what the test takes. -/
theorem length_takeWhile_eq {α : Type} {p : α → Bool} {xs : List α} {i : Nat}
    (hi : i ≤ xs.length) (htake : ∀ j x, j < i → xs[j]? = some x → p x)
    (hstop : ∀ x, xs[i]? = some x → p x = false) : (xs.takeWhile p).length = i := by
  induction xs generalizing i with
  | nil => simpa using (Nat.le_zero.1 hi).symm
  | cons x xs ih =>
    cases i with
    | zero =>
      have hx : p x = false := hstop x rfl
      simp [hx]
    | succ i =>
      have hx : p x = true := htake 0 x (Nat.zero_lt_succ i) rfl
      have hrest : (xs.takeWhile p).length = i := by
        refine ih (Nat.le_of_succ_le_succ hi) (fun j y hj hy => ?_) (fun y hy => ?_)
        · exact htake (j + 1) y (Nat.succ_lt_succ hj) (by simpa using hy)
        · exact hstop y (by simpa using hy)
      simp [hx, hrest]

namespace Graph

variable {g r : Graph} {e : Entry} {a b c d i : Nat}

/-! ## The ends -/

theorem exists_first (h : 0 < g.size) :
    ∃ e, g.entries[0]? = some e ∧ g.smallest? = some e.index := by
  refine ⟨_, List.getElem?_eq_getElem h, ?_⟩
  rw [smallest?, List.head?_eq_getElem?, List.getElem?_eq_getElem h, Option.map_some]

theorem exists_last (h : 0 < g.size) :
    ∃ e, g.entries[g.size - 1]? = some e ∧ g.largest? = some e.index := by
  have hlast : g.size - 1 < g.entries.length := Nat.sub_lt h Nat.zero_lt_one
  refine ⟨_, List.getElem?_eq_getElem hlast, ?_⟩
  rw [largest?, List.getLast?_eq_getElem?, ← size, List.getElem?_eq_getElem hlast,
    Option.map_some]

theorem smallest?_eq_none_iff : g.smallest? = none ↔ g.size = 0 := by
  rw [smallest?, Option.map_eq_none_iff, List.head?_eq_none_iff, size, List.length_eq_zero_iff]

theorem largest?_eq_none_iff : g.largest? = none ↔ g.size = 0 := by
  rw [largest?, Option.map_eq_none_iff, List.getLast?_eq_none_iff, size, List.length_eq_zero_iff]

/-! ## Merging -/

/-- The count that a merge carries along does not bear on the entries. -/
theorem foldl_extend_fst (page : List Entry) (g : Graph) (n : Nat) :
    (page.foldl (fun (g, added) e =>
      (g.insert e.index e.node, if g.contains e.index then added else added + 1)) (g, n)).1 =
      page.foldl (fun g e => g.insert e.index e.node) g := by
  induction page generalizing g n with
  | nil => rfl
  | cons e page ih => exact ih _ _

/-- A merged page adds its entries and takes away only what had the index of one of them. -/
theorem mem_extend {page : List Entry} (hp : Entry.Sorted page) :
    e ∈ (g.extend page).1.entries ↔
      e ∈ page ∨ (e ∈ g.entries ∧ ∀ x ∈ page, x.index ≠ e.index) := by
  rw [extend, foldl_extend_fst]
  induction page generalizing g with
  | nil => simp
  | cons x page ih =>
    have hx := List.pairwise_cons.1 hp
    rw [List.foldl_cons, ih hx.2, mem_insert]
    have hfresh : ∀ y ∈ page, y.index ≠ x.index := fun y hy =>
      (MessageIndex.ne_of_lt (hx.1 y hy)).symm
    simp only [List.mem_cons, forall_eq_or_imp]
    constructor
    · rintro (he | ⟨rfl | ⟨he, hne⟩, hpage⟩)
      · exact Or.inl (Or.inr he)
      · exact Or.inl (Or.inl rfl)
      · exact Or.inr ⟨he, fun h => hne h.symm, hpage⟩
    · rintro ((rfl | he) | ⟨he, hne, hpage⟩)
      · exact Or.inr ⟨Or.inl rfl, hfresh⟩
      · exact Or.inl he
      · exact Or.inr ⟨Or.inr ⟨he, fun h => hne h.symm⟩, hpage⟩

/-! ## Slices -/

/-- A part of a list holds what stands at its positions. -/
theorem mem_drop_take_iff {α : Type} {xs : List α} {x : α} :
    x ∈ (xs.take b).drop a ↔ ∃ i, a ≤ i ∧ i < b ∧ xs[i]? = some x := by
  rw [List.mem_iff_getElem?]
  constructor
  · rintro ⟨k, hk⟩
    rw [List.getElem?_drop, List.getElem?_take] at hk
    split at hk
    · next hlt => exact ⟨a + k, Nat.le_add_right a k, hlt, hk⟩
    · cases hk
  · rintro ⟨i, hai, hib, hi⟩
    refine ⟨i - a, ?_⟩
    rw [List.getElem?_drop, List.getElem?_take, Nat.add_sub_cancel' hai, if_pos hib, hi]

/-- A slice holds the entries at its positions. -/
theorem mem_slice : e ∈ g.slice a b ↔ ∃ i, a ≤ i ∧ i < b ∧ g.entries[i]? = some e :=
  mem_drop_take_iff

theorem mem_of_mem_slice (g : Graph) (h : e ∈ g.slice a b) : e ∈ g.entries :=
  List.mem_of_mem_take (List.mem_of_mem_drop h)

theorem mem_slice_iff_of_entry (h : g.entries[i]? = some e) :
    e ∈ g.slice a b ↔ a ≤ i ∧ i < b := by
  rw [mem_slice]
  constructor
  · rintro ⟨j, haj, hjb, hj⟩
    obtain rfl := g.sorted.position_eq hj h rfl
    exact ⟨haj, hjb⟩
  · rintro ⟨hai, hib⟩
    exact ⟨i, hai, hib, h⟩

theorem sorted_slice (g : Graph) (a b : Nat) : Entry.Sorted (g.slice a b) :=
  g.sorted.sublist ((List.drop_sublist a _).trans (List.take_sublist b _))

theorem getElem?_slice (h : a + i < b) : (g.slice a b)[i]? = g.entries[a + i]? := by
  rw [slice, List.getElem?_drop, List.getElem?_take, if_pos h]

theorem length_slice (h : b ≤ g.size) : (g.slice a b).length = b - a := by
  rw [size] at h
  rw [slice, List.length_drop, List.length_take, Nat.min_eq_left h]

/-- A slice that stops at the end leaves out only what lies before it. -/
theorem slice_size (g : Graph) (a : Nat) : g.slice a g.size = g.entries.drop a := by
  rw [slice, size, List.take_length]

theorem slice_eq_nil (h : b ≤ a) : g.slice a b = [] := by
  rw [slice, List.drop_eq_nil_iff, List.length_take]
  omega

/-- A merged slice of a graph joins another slice of it, wherever the two lie. -/
theorem mem_extend_slice (h : g.entries = r.slice a b) :
    e ∈ (g.extend (r.slice c d)).1.entries ↔ e ∈ r.slice c d ∨ e ∈ r.slice a b := by
  rw [mem_extend (r.sorted_slice c d), h]
  constructor
  · rintro (hpage | ⟨hold, -⟩)
    · exact Or.inl hpage
    · exact Or.inr hold
  · rintro (hpage | hold)
    · exact Or.inl hpage
    · by_cases hin : e ∈ r.slice c d
      · exact Or.inl hin
      · refine Or.inr ⟨hold, fun x hx heq => hin ?_⟩
        -- an entry of the page with this index would be the entry itself
        rwa [← r.sorted.eq_of_index_eq (r.mem_of_mem_slice hx) (r.mem_of_mem_slice hold) heq]

/-- Slices of one graph that meet are joined to the slice that reaches over both. -/
theorem entries_extend_slice (h : g.entries = r.slice a b) (hcb : c ≤ b) (had : a ≤ d) :
    (g.extend (r.slice c d)).1.entries = r.slice (min a c) (max b d) := by
  refine Entry.Sorted.eq_of_mem_iff (Graph.sorted _) (r.sorted_slice _ _) fun e => ?_
  rw [mem_extend_slice h, mem_slice, mem_slice, mem_slice]
  constructor
  · rintro (⟨i, hlo, hhi, hi⟩ | ⟨i, hlo, hhi, hi⟩)
    · exact ⟨i, by omega, by omega, hi⟩
    · exact ⟨i, by omega, by omega, hi⟩
  · rintro ⟨i, hlo, hhi, hi⟩
    by_cases hin : c ≤ i ∧ i < d
    · exact Or.inl ⟨i, hin.1, hin.2, hi⟩
    · exact Or.inr ⟨i, by omega, by omega, hi⟩

/-- A graph finds at an index the node of the entry that has it. -/
theorem get?_eq_some_iff {k : MessageIndex} {n : Node} :
    g.get? k = some n ↔ ⟨k, n⟩ ∈ g.entries := by
  rw [get?, Option.map_eq_some_iff]
  constructor
  · rintro ⟨x, hx, rfl⟩
    have hk : x.index = k := by simpa using List.find?_some hx
    subst hk
    exact List.mem_of_find?_eq_some hx
  · intro h
    cases hx : g.entries.find? (·.index = k) with
    | none =>
      have hk := List.find?_eq_none.1 hx _ h
      simp at hk
    | some x =>
      have hk : x.index = k := by simpa using List.find?_some hx
      have hxe : x = ⟨k, n⟩ := g.sorted.eq_of_index_eq (List.mem_of_find?_eq_some hx) h hk
      exact ⟨x, rfl, by rw [hxe]⟩

/-- What a slice of another graph holds is found there as well. -/
theorem get?_eq_of_entries_eq_slice (h : g.entries = r.slice a b) {k : MessageIndex}
    (hk : k ∈ g.keys) : g.get? k = r.get? k := by
  obtain ⟨⟨k, n⟩, he, rfl⟩ := List.mem_map.1 hk
  have hmem : (⟨k, n⟩ : Entry) ∈ r.entries := by
    rw [h, mem_slice] at he
    obtain ⟨i, -, -, hi⟩ := he
    exact List.mem_of_getElem? hi
  rw [get?_eq_some_iff.2 he, get?_eq_some_iff.2 hmem]

/-- The indices at some positions are read off the indices. -/
theorem keysIn_eq (g : Graph) (a b : Nat) : g.keysIn a b = (g.keys.take b).drop a := by
  rw [keysIn, slice, keys, List.map_drop, List.map_take]

/-- Two ranges of positions that meet are joined. -/
theorem keysIn_append (hab : a ≤ b) (hbc : b ≤ c) :
    g.keysIn a b ++ g.keysIn b c = g.keysIn a c := by
  have htake : g.keys.take b = (g.keys.take c).take b := by
    rw [List.take_take, Nat.min_eq_left hbc]
  rw [keysIn_eq, keysIn_eq, keysIn_eq, htake, List.drop_take]
  have hdrop : (g.keys.take c).drop b = ((g.keys.take c).drop a).drop (b - a) := by
    rw [List.drop_drop, Nat.add_sub_cancel' hab]
  rw [hdrop, List.take_append_drop]

/-- Indices that were added at the end do not bear on positions before it. -/
theorem keysIn_of_prefix (h : g.keys <+: r.keys) (hb : b ≤ g.size) :
    r.keysIn a b = g.keysIn a b := by
  obtain ⟨post, hpost⟩ := h
  have hlength : b ≤ g.keys.length := by
    rwa [keys, List.length_map]
  rw [keysIn_eq, keysIn_eq, ← hpost, List.take_append_of_le_length hlength]

/-! ## Ranks -/

/-- The rank of an entry's index is the entry's position. -/
theorem rank_eq_of_entry (h : g.entries[i]? = some e) : g.rank e.index = i := by
  refine length_takeWhile_eq (List.getElem?_eq_some_iff.1 h).1.le (fun j x hj hx => ?_)
    (fun x hx => ?_)
  · exact decide_eq_true ((g.sorted.index_lt_iff hx h).2 hj)
  · have hlt := g.sorted.index_lt_iff hx h
    exact decide_eq_false fun hlt' => Nat.lt_irrefl i (hlt.1 hlt')

theorem rank_le_size (g : Graph) (k : MessageIndex) : g.rank k ≤ g.size :=
  (List.takeWhile_sublist _).length_le

/-! ## Changes that keep or extend the order -/

/-- Inserting an index past all others appends its entry. -/
theorem entries_insert_of_forall_lt {k : MessageIndex} (n : Node)
    (h : ∀ x ∈ g.entries, x.index < k) : (g.insert k n).entries = g.entries ++ [⟨k, n⟩] := by
  have hplace : ∀ es : List Entry, (∀ x ∈ es, x.index < k) → place ⟨k, n⟩ es = es ++ [⟨k, n⟩] := by
    intro es hes
    induction es with
    | nil => rfl
    | cons x es ih =>
      have hx : x.index < k := hes x (List.mem_cons_self ..)
      have hnot : ¬ k < x.index := fun hk =>
        MessageIndex.lt_irrefl _ (MessageIndex.lt_trans hx hk)
      rw [place, if_neg hnot, if_neg (MessageIndex.ne_of_lt hx).symm,
        ih fun y hy => hes y (List.mem_cons_of_mem x hy), List.cons_append]
  exact hplace g.entries h

/-- A change in place commutes with slicing. -/
theorem slice_modify (g : Graph) (k : MessageIndex) (f : Node → Node) (a b : Nat) :
    (g.modify k f).slice a b =
      (g.slice a b).map fun e => if e.index = k then { e with node := f e.node } else e := by
  simp only [slice, modify, List.map_take, List.map_drop]

/-- The last index decides which message is the newest. -/
theorem largest?_eq_getLast?_keys (g : Graph) : g.largest? = g.keys.getLast? := by
  rw [largest?, keys, List.getLast?_map]

theorem largest?_acknowledge (g : Graph) (k : MessageIndex) :
    (g.acknowledge k).largest? = g.largest? := by
  rw [largest?_eq_getLast?_keys, largest?_eq_getLast?_keys, keys_acknowledge]

@[simp] theorem size_modify (g : Graph) (k : MessageIndex) (f : Node → Node) :
    (g.modify k f).size = g.size := by
  simp only [size, modify, List.length_map]

/-- Entries at the end do not bear on a slice that stops before them. -/
theorem slice_append {r' : Graph} {es : List Entry} (h : r'.entries = r.entries ++ es)
    (hb : b ≤ r.size) : r'.slice a b = r.slice a b := by
  rw [slice, slice, h, List.take_append_of_le_length hb]

end Graph

end Scrollback
