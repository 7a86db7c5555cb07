import Mathlib.Data.List.Dedup
import Scrollback.Graph.Ranked
import Scrollback.Proofs.Graph.Map
import Scrollback.Proofs.Graph.Position
/-!
# Ranked graphs are maps with ranks

The table of a ranked graph holds the indices of its nodes in order, whatever was inserted, merged,
acknowledged, deleted and cleared before, and in whatever order. So every lookup, by index or by
rank, answers from one list of entries in order, and that list is the map that the changes amount to.

## Main definitions

* `Edit` — a change of a graph.
* `Edit.effect` — what it does to the nodes at all indices.
* `RankedGraph.Ranks` — the table holds the indices of the nodes in order.
* `RankedGraph.Lists` — all lookups answer from a list of entries.

## Main statements

* `RankedGraph.Ranks.edit` — every change keeps the table in order.
* `RankedGraph.Ranks.lists` — with the table in order, lookups answer from the entries.
* `RankedGraph.lists_sorted_entries` — after any changes, lookups and counts are those of the map
  with ranks.
-/

namespace Scrollback

/-! ## Halving -/

/-- Halving finds the position at which a predicate stops holding for good. -/
theorem partitionPoint_spec {p : Nat → Bool} {lo hi : Nat} (h : lo ≤ hi)
    (hmono : ∀ i j, i ≤ j → j < hi → p j = true → p i = true) :
    (∀ i, lo ≤ i → i < partitionPoint p lo hi → p i = true) ∧
      ∀ i, partitionPoint p lo hi ≤ i → i < hi → p i = false := by
  fun_induction partitionPoint p lo hi with
  | case1 lo hi hlt mid hp ih =>
    obtain ⟨hbelow, habove⟩ := ih (by omega) hmono
    refine ⟨fun i _ hi => ?_, habove⟩
    rcases Nat.lt_or_ge mid i with hmid | hmid
    · exact hbelow i hmid hi
    · exact hmono i mid hmid (by omega) hp
  | case2 lo hi hlt mid hp ih =>
    obtain ⟨hbelow, habove⟩ := ih (by omega) fun i j hij hj => hmono i j hij (by omega)
    refine ⟨hbelow, fun i hi hihi => ?_⟩
    rcases Nat.lt_or_ge i mid with hmid | hmid
    · exact habove i hi hmid
    · exact eq_false_of_ne_true fun hpi => hp (hmono mid i hmid hihi hpi)
  | case3 lo hi hge => exact ⟨fun i _ _ => by omega, fun i _ _ => by omega⟩

/-! ## Places in a table -/

/-- An index put between the smaller ones and the greater ones leaves a table in order. -/
theorem pairwise_take_cons_drop {is : List MessageIndex} {i : MessageIndex} {k : Nat}
    (h : is.Pairwise (· < ·)) (hi : i ∉ is)
    (hk : ∀ p j, is[p]? = some j → (p < k ↔ j < i)) :
    (is.take k ++ i :: is.drop k).Pairwise (· < ·) := by
  have hbelow : ∀ j ∈ is.take k, j < i := by
    intro j hj
    obtain ⟨p, hp⟩ := List.mem_iff_getElem?.1 hj
    rw [List.getElem?_take] at hp
    split at hp
    · next hlt => exact (hk p j hp).1 hlt
    · cases hp
  have habove : ∀ j ∈ is.drop k, i < j := by
    intro j hj
    obtain ⟨p, hp⟩ := List.mem_iff_getElem?.1 hj
    rw [List.getElem?_drop] at hp
    refine MessageIndex.lt_of_not_lt_of_ne (fun hlt => ?_) fun heq => ?_
    · exact absurd ((hk _ j hp).2 hlt) (by omega)
    · exact hi (heq ▸ List.mem_of_getElem? hp)
  have hsplit := h
  rw [← List.take_append_drop k is, List.pairwise_append] at hsplit
  obtain ⟨htake, hdrop, hcross⟩ := hsplit
  refine List.pairwise_append.2 ⟨htake, List.pairwise_cons.2 ⟨habove, hdrop⟩, fun a ha => ?_⟩
  exact List.forall_mem_cons.2 ⟨hbelow a ha, hcross a ha⟩

/-- Indices in order are determined by which of them there are. -/
theorem eq_of_mem_iff {is js : List MessageIndex} (hi : is.Pairwise (· < ·))
    (hj : js.Pairwise (· < ·)) (h : ∀ k, k ∈ is ↔ k ∈ js) : is = js := by
  have : Std.Irrefl fun a b : MessageIndex => a < b := ⟨MessageIndex.lt_irrefl⟩
  have : Std.Antisymm fun a b : MessageIndex => a < b :=
    ⟨fun _ _ hab hba => (MessageIndex.lt_irrefl _ (MessageIndex.lt_trans hab hba)).elim⟩
  exact List.Pairwise.eq_of_mem_iff hi hj h

theorem insertIdx_eq {α : Type} {xs : List α} {k : Nat} (h : k ≤ xs.length) (x : α) :
    xs.insertIdx k x = xs.take k ++ x :: xs.drop k := by
  induction xs generalizing k with
  | nil =>
    obtain rfl := Nat.le_zero.1 h
    rfl
  | cons y xs ih =>
    cases k with
    | zero => rfl
    | succ k =>
      rw [List.insertIdx_succ_cons, ih (Nat.le_of_succ_le_succ h)]
      rfl

namespace RankedGraph

variable {g : RankedGraph} {keys : Array MessageIndex} {i j : MessageIndex} {n : Node} {p : Nat}

/-- Before the rank of an index stand the smaller ones, and from there on the others. -/
theorem lt_rankIn_iff (h : keys.toList.Pairwise (· < ·)) (hj : keys.toList[p]? = some j) :
    p < rankIn keys i ↔ j < i := by
  have hget : ∀ p, (keys[p]?.any (· < i)) = (keys.toList[p]?.any (· < i)) := fun p => by
    rw [Array.getElem?_toList]
  have hp : p < keys.size := by
    rw [← Array.length_toList]
    exact (List.getElem?_eq_some_iff.1 hj).1
  have hmono : ∀ q r, q ≤ r → r < keys.size → (keys[r]?.any (· < i)) = true →
      (keys[q]?.any (· < i)) = true := by
    intro q r hqr hr hlt
    have hr' : r < keys.toList.length := by rwa [Array.length_toList]
    rcases Nat.lt_or_eq_of_le hqr with hqr | rfl
    · have hq' : q < keys.toList.length := Nat.lt_trans hqr hr'
      rw [hget, List.getElem?_eq_getElem hr', Option.any_some, decide_eq_true_eq] at hlt
      rw [hget, List.getElem?_eq_getElem hq', Option.any_some, decide_eq_true_eq]
      exact MessageIndex.lt_trans (List.pairwise_iff_getElem.1 h q r hq' hr' hqr) hlt
    · exact hlt
  obtain ⟨hbelow, habove⟩ := partitionPoint_spec (Nat.zero_le _) hmono
  have hany : (keys[p]?.any (· < i)) = decide (j < i) := by rw [hget, hj, Option.any_some]
  constructor
  · intro hlt
    exact of_decide_eq_true (hany ▸ hbelow p (Nat.zero_le p) hlt)
  · intro hlt
    by_contra hge
    exact of_decide_eq_false (hany ▸ habove p (Nat.not_lt.1 hge) hp) hlt

/-- An index is put between the smaller ones and the others. -/
theorem exists_place (h : keys.toList.Pairwise (· < ·)) (i : MessageIndex) :
    ∃ k, (place keys i).toList = keys.toList.take k ++ i :: keys.toList.drop k ∧
      ∀ p j, keys.toList[p]? = some j → (p < k ↔ j < i) := by
  rw [place]
  split
  · next hback =>
    rw [← Array.getLast?_toList, List.getLast?_eq_none_iff] at hback
    refine ⟨0, by simp [hback], fun p j hj => ?_⟩
    simp [hback] at hj
  · next last hback =>
    split
    · next hlast =>
      refine ⟨keys.toList.length, by rw [List.take_length, List.drop_length]; simp,
        fun p j hj => ?_⟩
      refine iff_of_true (List.getElem?_eq_some_iff.1 hj).1 ?_
      rw [← Array.getLast?_toList] at hback
      obtain ⟨before, hkeys⟩ := List.getLast?_eq_some_iff.1 hback
      have hmem := List.mem_of_getElem? hj
      rw [hkeys, List.mem_append, List.mem_singleton] at hmem
      rw [hkeys, List.pairwise_append] at h
      rcases hmem with hmem | rfl
      · exact MessageIndex.lt_trans (h.2.2 j hmem last (List.mem_singleton_self last)) hlast
      · exact hlast
    · refine ⟨rankIn keys i, ?_, fun p j hj => lt_rankIn_iff h hj⟩
      have hrank := rankIn_le keys i
      rw [Array.toList_insertIdx, insertIdx_eq (by rwa [Array.length_toList])]

/-! ## The table in order -/

/-- The table holds the indices of the nodes in order. -/
def Ranks (g : RankedGraph) : Prop := g.keys.toList = g.nodes.keys

theorem ranks_empty : empty.Ranks := rfl

theorem Ranks.pairwise (h : g.Ranks) : g.keys.toList.Pairwise (· < ·) := h ▸ g.nodes.keys_pairwise

theorem nodes_insert (g : RankedGraph) (i : MessageIndex) (n : Node) :
    (g.insert i n).1.nodes = g.nodes.insert i n := rfl

/-- An insertion puts a new index at its place and leaves the table alone otherwise. -/
theorem Ranks.insert (h : g.Ranks) (i : MessageIndex) (n : Node) : (g.insert i n).1.Ranks := by
  have hsorted := (g.nodes.insert i n).keys_pairwise
  have hkeys : (g.insert i n).1.keys = if !g.contains i then place g.keys i else g.keys := rfl
  rw [Ranks, nodes_insert, hkeys]
  cases hheld : g.contains i with
  | true =>
    have hsize : (g.nodes.insert i n).size = g.nodes.size := by
      rw [Graph.size_insert, if_pos (c := g.nodes.contains i = true) hheld]
    exact h.trans (Graph.keys_eq_of_subset (g.nodes.keys_subset_insert i n) hsize.le).symm
  | false =>
    have hnew : i ∉ g.keys.toList := by
      rw [h, ← Graph.contains_iff_mem_keys]
      exact ne_true_of_eq_false hheld
    obtain ⟨k, hplace, hk⟩ := exists_place h.pairwise i
    have hplaced : (place g.keys i).toList.Pairwise (· < ·) :=
      hplace ▸ pairwise_take_cons_drop h.pairwise hnew hk
    have hmem : ∀ j, j ∈ (place g.keys i).toList ↔ j ∈ (g.nodes.insert i n).keys := by
      intro j
      rw [Graph.mem_keys_insert, ← h, hplace, List.mem_append, List.mem_cons, or_left_comm,
        ← List.mem_append, List.take_append_drop]
    exact eq_of_mem_iff hplaced hsorted hmem

theorem extend_concat (g : RankedGraph) (page : List Entry) (e : Entry) :
    g.extend (page ++ [e]) = (((g.extend page).1.insert e.index e.node).1,
      if !(g.extend page).1.contains e.index then (g.extend page).2 + 1
      else (g.extend page).2) := by
  rw [extend, List.foldl_append]
  rfl

/-- Merging a page does to the nodes what it does to a graph, and counts alike. -/
theorem extend_eq (g : RankedGraph) (page : List Entry) :
    (g.extend page).1.nodes = (g.nodes.extend page).1 ∧
      (g.extend page).2 = (g.nodes.extend page).2 := by
  induction page using List.reverseRecOn with
  | nil => exact ⟨rfl, rfl⟩
  | append_singleton page e ih =>
    obtain ⟨hnodes, hcount⟩ := ih
    have hcontains : (g.extend page).1.contains e.index =
        (g.nodes.extend page).1.contains e.index := by
      rw [contains, get?, hnodes]
      rfl
    rw [extend_concat, Graph.extend_concat, nodes_insert, hnodes, hcount, hcontains]
    refine ⟨rfl, ?_⟩
    cases (g.nodes.extend page).1.contains e.index <;> rfl

theorem Ranks.extend (h : g.Ranks) (page : List Entry) : (g.extend page).1.Ranks := by
  induction page using List.reverseRecOn with
  | nil => exact h
  | append_singleton page e ih =>
    rw [extend_concat]
    exact ih.insert e.index e.node

theorem nodes_acknowledge (g : RankedGraph) (i : MessageIndex) :
    (g.acknowledge i).1.nodes = g.nodes.acknowledge i := by
  rw [acknowledge]
  split
  · rfl
  · next h => exact (Graph.acknowledge_of_not_pending h).symm

theorem nodes_delete (g : RankedGraph) (i : MessageIndex) :
    (g.delete i).1.nodes = g.nodes.delete i := by
  rw [delete]
  split
  · rfl
  · next h => exact (Graph.delete_of_not_post h).symm

/-- A change in place leaves the table alone. -/
theorem keys_acknowledge (g : RankedGraph) (i : MessageIndex) :
    (g.acknowledge i).1.keys = g.keys := by
  rw [acknowledge]
  split <;> rfl

theorem keys_delete (g : RankedGraph) (i : MessageIndex) : (g.delete i).1.keys = g.keys := by
  rw [delete]
  split <;> rfl

/-! ## Looking up -/

/-- All lookups answer from a list of entries. -/
structure Lists (g : RankedGraph) (es : List Entry) : Prop where
  keys : g.keys.toList = es.map Entry.index
  size : g.size = es.length
  get? : ∀ i n, g.get? i = some n ↔ (⟨i, n⟩ : Entry) ∈ es
  contains : ∀ i, g.contains i = true ↔ ∃ e ∈ es, e.index = i
  keyAt? : ∀ p, g.keyAt? p = es[p]?.map Entry.index
  nodeAt? : ∀ p, g.nodeAt? p = es[p]?.map Entry.node
  positionOf? : ∀ i, g.positionOf? i = es.findIdx? (·.index = i)
  largest? : g.largest? = es.getLast?.map Entry.index
  smallest? : g.smallest? = es.head?.map Entry.index
  keysIn : ∀ start stop, g.keysIn start stop = ((es.take stop).drop start).map Entry.index
  toList : g.toList = es

theorem Ranks.keyAt? (h : g.Ranks) (p : Nat) : g.keyAt? p = g.nodes.keys[p]? := by
  rw [RankedGraph.keyAt?, ← Array.getElem?_toList, h]

theorem Ranks.size (h : g.Ranks) : g.size = g.nodes.size := by
  rw [RankedGraph.size, ← Array.length_toList, h, ← Graph.size_eq_length_keys]

/-- A position is a place in the table, and the other way around. -/
theorem Ranks.positionOf?_eq_some_iff (h : g.Ranks) :
    g.positionOf? i = some p ↔ g.keyAt? p = some i := by
  rw [RankedGraph.positionOf?]
  constructor
  · intro hp
    split at hp
    · next hrank =>
      cases hp
      exact hrank
    · cases hp
  · intro hp
    -- the rank of an index that the table holds is its place
    have hrank : rankIn g.keys i = p := by
      rw [h.keyAt?, ← h] at hp
      have hle : ¬ p < rankIn g.keys i := fun hlt =>
        MessageIndex.lt_irrefl i ((lt_rankIn_iff h.pairwise hp).1 hlt)
      obtain ⟨hplt, hget⟩ := List.getElem?_eq_some_iff.1 hp
      have hge : ¬ rankIn g.keys i < p := fun hlt => by
        have hqlt := Nat.lt_trans hlt hplt
        have hless := List.pairwise_iff_getElem.1 h.pairwise _ p hqlt hplt hlt
        rw [hget] at hless
        have hself := (lt_rankIn_iff h.pairwise (List.getElem?_eq_getElem hqlt)).2 hless
        exact Nat.lt_irrefl _ hself
      omega
    rw [hrank, if_pos hp]

/-- Looking up the positions of a range one by one gives the range. -/
theorem filterMap_range'_getElem? {α : Type} (xs : List α) (start count : Nat) :
    (List.range' start count).filterMap (xs[·]?) = (xs.drop start).take count := by
  induction count generalizing start with
  | zero => simp
  | succ count ih =>
    rw [List.range'_succ, List.filterMap_cons, ih]
    cases hx : xs[start]? with
    | none =>
      rw [List.getElem?_eq_none_iff] at hx
      rw [List.drop_eq_nil_of_le hx, List.drop_eq_nil_of_le (Nat.le_succ_of_le hx)]
      simp
    | some x =>
      obtain ⟨hlt, rfl⟩ := List.getElem?_eq_some_iff.1 hx
      rw [List.drop_eq_getElem_cons hlt, List.take_succ_cons]

/-- Positions past the end have nothing, nor has a range that ends before it starts. -/
theorem drop_take_clamped {α : Type} (xs : List α) (start stop : Nat) :
    (xs.drop (min start (min stop xs.length))).take
      (min stop xs.length - min start (min stop xs.length)) = (xs.take stop).drop start := by
  rcases Nat.le_total start (min stop xs.length) with hle | hge
  · rw [Nat.min_eq_left hle, List.drop_take, List.take_eq_take_iff, List.length_drop]
    omega
  · rw [Nat.min_eq_right hge, Nat.sub_self, List.take_zero, List.drop_eq_nil_of_le]
    rwa [List.length_take]

/-- With the table in order, lookups answer from the entries. -/
theorem Ranks.lists (h : g.Ranks) : g.Lists g.nodes.entries where
  keys := h
  size := h.size
  get? := fun i n => Graph.get?_eq_some_iff
  contains := fun i => Graph.contains_iff_mem_keys.trans Graph.mem_keys_iff
  keyAt? := fun p => by rw [h.keyAt?, Graph.keys, List.getElem?_map]
  nodeAt? := fun p => by
    rw [RankedGraph.nodeAt?, h.keyAt?, Graph.keys, List.getElem?_map]
    cases he : g.nodes.entries[p]? with
    | none => rfl
    | some e => exact Graph.get?_eq_some_iff.2 (List.mem_of_getElem? he)
  positionOf? := fun i => by
    have hgraph : g.nodes.positionOf? i = g.nodes.entries.findIdx? (·.index = i) := rfl
    ext p
    rw [h.positionOf?_eq_some_iff, h.keyAt?, ← hgraph, Graph.positionOf?_eq_some_iff]
  largest? := by
    have hgraph : g.nodes.largest? = g.nodes.entries.getLast?.map Entry.index := rfl
    rw [RankedGraph.largest?, ← hgraph, Graph.largest?_eq_getElem?_keys, h.size]
    cases hsize : g.nodes.size with
    | zero =>
      rw [Graph.size_eq_length_keys, List.length_eq_zero_iff] at hsize
      rw [hsize]
      rfl
    | succ last => exact h.keyAt? last
  smallest? := by
    have hgraph : g.nodes.smallest? = g.nodes.entries.head?.map Entry.index := rfl
    rw [RankedGraph.smallest?, h.keyAt?, ← hgraph, Graph.smallest?_eq_head?_keys,
      List.head?_eq_getElem?]
  keysIn := fun start stop => by
    have hkeyAt : g.keyAt? = (g.nodes.keys[·]?) := funext h.keyAt?
    rw [RankedGraph.keysIn, hkeyAt, filterMap_range'_getElem?, h.size, Graph.size_eq_length_keys,
      drop_take_clamped, List.map_drop, List.map_take, Graph.keys]
  toList := rfl

/-! ## Any changes -/

end RankedGraph

/-- A change of a graph. -/
inductive Edit where
  /-- A node is put at an index. -/
  | insert (index : MessageIndex) (node : Node)
  /-- A page is merged. -/
  | extend (page : List Entry)
  /-- A post is acknowledged. -/
  | acknowledge (index : MessageIndex)
  /-- A post is deleted. -/
  | delete (index : MessageIndex)
  /-- Everything is dropped. -/
  | clear

/-- What a change does to the nodes at all indices. Of the nodes that a page gives to an index the
last one counts. -/
def Edit.effect (held : MessageIndex → Option Node) : Edit → MessageIndex → Option Node
  | .insert i n => fun j => if j = i then some n else held j
  | .extend page => fun j => ((page.reverse.find? (·.index = j)).map Entry.node).or (held j)
  | .acknowledge i => fun j => if j = i then (held j).map Node.acknowledged else held j
  | .delete i => fun j => if j = i then (held j).map fun _ => .deleted else held j
  | .clear => fun _ => none

/-- A graph after a change. -/
def Graph.edit (g : Graph) : Edit → Graph
  | .insert i n => g.insert i n
  | .extend page => (g.extend page).1
  | .acknowledge i => g.acknowledge i
  | .delete i => g.delete i
  | .clear => Graph.empty

theorem Graph.get?_edit (g : Graph) (e : Edit) : (g.edit e).get? = e.effect g.get? := by
  funext j
  cases e with
  | insert i n => exact g.get?_insert i n j
  | extend page => exact g.get?_extend page j
  | acknowledge i => exact g.get?_acknowledge i j
  | delete i => exact g.get?_delete i j
  | clear => rfl

theorem Graph.get?_foldl_edit (g : Graph) (edits : List Edit) :
    (edits.foldl Graph.edit g).get? = edits.foldl Edit.effect g.get? := by
  induction edits generalizing g with
  | nil => rfl
  | cons e edits ih => rw [List.foldl_cons, List.foldl_cons, ih, get?_edit]

namespace RankedGraph

variable {g : RankedGraph}

/-- A ranked graph after a change. -/
def edit (g : RankedGraph) : Edit → RankedGraph
  | .insert i n => (g.insert i n).1
  | .extend page => (g.extend page).1
  | .acknowledge i => (g.acknowledge i).1
  | .delete i => (g.delete i).1
  | .clear => empty

/-- Every change does to the nodes what it does to a graph. -/
theorem nodes_edit (g : RankedGraph) (e : Edit) : (g.edit e).nodes = g.nodes.edit e := by
  cases e with
  | insert i n => rfl
  | extend page => exact (g.extend_eq page).1
  | acknowledge i => exact g.nodes_acknowledge i
  | delete i => exact g.nodes_delete i
  | clear => rfl

/-- Every change keeps the table in order. -/
theorem Ranks.edit (h : g.Ranks) (e : Edit) : (g.edit e).Ranks := by
  cases e with
  | insert i n => exact h.insert i n
  | extend page => exact h.extend page
  | acknowledge i =>
    rw [Ranks, RankedGraph.edit, keys_acknowledge, nodes_acknowledge, Graph.keys_acknowledge]
    exact h
  | delete i =>
    rw [Ranks, RankedGraph.edit, keys_delete, nodes_delete, Graph.keys_delete]
    exact h
  | clear => exact ranks_empty

theorem Ranks.foldl_edit (h : g.Ranks) (edits : List Edit) :
    (edits.foldl RankedGraph.edit g).Ranks := by
  induction edits generalizing g with
  | nil => exact h
  | cons e edits ih => exact ih (h.edit e)

theorem nodes_foldl_edit (g : RankedGraph) (edits : List Edit) :
    (edits.foldl edit g).nodes = edits.foldl Graph.edit g.nodes := by
  induction edits generalizing g with
  | nil => rfl
  | cons e edits ih => rw [List.foldl_cons, List.foldl_cons, ih, nodes_edit]

/-- **A ranked graph is a map with ranks.** Whatever was inserted, merged, acknowledged, deleted and
cleared, the table of indices is in order, and all lookups answer from one list of entries in order:
those of the map that the changes amount to, which are also those of the graph that was changed alike.
Positions and indices determine each other. An insertion tells whether its index is new, and a page
counts its indices that are new. Acknowledgements and deletions leave the indices as they are. -/
theorem lists_sorted_entries (edits : List Edit) :
    let g := edits.foldl edit empty
    let held := edits.foldl Edit.effect fun _ => none
    ∃ es, Entry.Sorted es ∧ (∀ i n, (⟨i, n⟩ : Entry) ∈ es ↔ held i = some n) ∧
      es = (edits.foldl Graph.edit Graph.empty).entries ∧
      g.keys.toList.Pairwise (· < ·) ∧ g.Lists es ∧
      (∀ i p, g.positionOf? i = some p ↔ g.keyAt? p = some i) ∧
      (∀ i n, (g.insert i n).2 = true ↔ held i = none) ∧
      (∀ page, (g.extend page).2 =
        ((page.map Entry.index).toFinset.filter fun i => held i = none).card) ∧
      ∀ i, (g.acknowledge i).1.keys = g.keys ∧ (g.delete i).1.keys = g.keys := by
  intro g held
  have hranks : g.Ranks := Ranks.foldl_edit ranks_empty edits
  have hnodes : g.nodes = edits.foldl Graph.edit Graph.empty := nodes_foldl_edit empty edits
  have hheld : g.nodes.get? = held := by
    rw [hnodes, Graph.get?_foldl_edit]
    rfl
  refine ⟨g.nodes.entries, g.nodes.sorted, fun i n => ?_, by rw [hnodes], hranks.pairwise,
    hranks.lists, fun i p => hranks.positionOf?_eq_some_iff, fun i n => ?_, fun page => ?_,
    fun i => ⟨g.keys_acknowledge i, g.keys_delete i⟩⟩
  · rw [← hheld, Graph.get?_eq_some_iff]
  · have hnew : (g.insert i n).2 = !(g.nodes.get? i).isSome := rfl
    rw [hnew, hheld, Bool.not_eq_true', Option.isSome_eq_false_iff, Option.isNone_iff_eq_none]
  · rw [(g.extend_eq page).2, Graph.extend_snd]
    congr 1
    ext i
    rw [Finset.mem_sdiff, Finset.mem_filter, ← hheld, Graph.get?_eq_none_iff, List.mem_toFinset,
      List.mem_toFinset]

end RankedGraph

end Scrollback
