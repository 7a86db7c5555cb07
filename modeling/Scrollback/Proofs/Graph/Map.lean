import Mathlib.Data.Finset.Card
import Scrollback.Proofs.Graph.Position
/-!
# Graphs as maps

What a graph holds at an index tells all of its entries. An insertion gives one index its node, and
a change in place changes the node at one index.

## Main statements

* `Graph.get?_insert`, `Graph.get?_extend`, `Graph.get?_modify` — what each operation does to the
  node at an index.
* `Graph.ext_get?` — what a graph holds at all indices is all that it holds.
* `Graph.extend_snd` — a page counts its indices that are new, each once.
-/

namespace Scrollback.Graph

variable {g r : Graph} {i j : MessageIndex} {n : Node}

theorem get?_eq_none_iff : g.get? i = none ↔ i ∉ g.keys := by
  rw [← contains_iff_mem_keys, contains, Bool.not_eq_true, Option.isSome_eq_false_iff,
    Option.isNone_iff_eq_none]

theorem mem_keys_of_get? (h : g.get? i = some n) : i ∈ g.keys :=
  contains_iff_mem_keys.1 (by rw [contains, h]; rfl)

/-- Graphs with the same entries at an index hold the same there. -/
theorem get?_congr (h : ∀ n, (⟨i, n⟩ : Entry) ∈ g.entries ↔ (⟨i, n⟩ : Entry) ∈ r.entries) :
    g.get? i = r.get? i := by
  ext n
  rw [get?_eq_some_iff, get?_eq_some_iff, h]

/-- What a graph holds at its indices is all that it holds. -/
theorem ext_get? (h : ∀ i, g.get? i = r.get? i) : g = r := by
  refine Graph.ext (g.sorted.eq_of_mem_iff r.sorted fun e => ?_)
  have hget := h e.index
  rw [Option.ext_iff] at hget
  simpa only [get?_eq_some_iff] using hget e.node

/-- An insertion gives one index its node. -/
theorem get?_insert (g : Graph) (i : MessageIndex) (n : Node) (j : MessageIndex) :
    (g.insert i n).get? j = if j = i then some n else g.get? j := by
  split
  · next hj =>
    rw [hj, get?_eq_some_iff]
    exact mem_insert.2 (.inl rfl)
  · next hj =>
    refine get?_congr fun m => ?_
    rw [mem_insert]
    constructor
    · rintro (heq | ⟨he, -⟩)
      · exact absurd (congrArg Entry.index heq) hj
      · exact he
    · exact fun he => .inr ⟨he, hj⟩

/-- Of the nodes that a page gives to an index the last one stays. -/
theorem get?_extend (g : Graph) (page : List Entry) (i : MessageIndex) :
    (g.extend page).1.get? i =
      ((page.reverse.find? (·.index = i)).map Entry.node).or (g.get? i) := by
  induction page using List.reverseRecOn with
  | nil => rfl
  | append_singleton page e ih =>
    rw [extend_concat, get?_insert, List.reverse_concat, List.find?_cons]
    by_cases hi : i = e.index
    · rw [if_pos hi, decide_eq_true hi.symm]
      rfl
    · rw [if_neg hi, decide_eq_false fun heq => hi heq.symm]
      exact ih

theorem mem_keys_extend {page : List Entry} :
    i ∈ (g.extend page).1.keys ↔ i ∈ page.map Entry.index ∨ i ∈ g.keys := by
  rw [← contains_iff_mem_keys, ← contains_iff_mem_keys, contains, contains, get?_extend,
    Option.isSome_or, Bool.or_eq_true, Option.isSome_map, List.find?_isSome, List.mem_map]
  simp only [List.mem_reverse, decide_eq_true_eq]

/-- A page counts its indices that are new, each once. -/
theorem extend_snd (g : Graph) (page : List Entry) :
    (g.extend page).2 = ((page.map Entry.index).toFinset \ g.keys.toFinset).card := by
  have hcard : ∀ r : Graph, r.keys.toFinset.card = r.size := fun r => by
    rw [List.toFinset_card_of_nodup r.keys_nodup, size_eq_length_keys]
  have hkeys : (g.extend page).1.keys.toFinset =
      (page.map Entry.index).toFinset ∪ g.keys.toFinset := by
    ext i
    rw [Finset.mem_union, List.mem_toFinset, List.mem_toFinset, List.mem_toFinset,
      mem_keys_extend]
  have hsize := size_extend g page
  have hunion := Finset.card_sdiff_add_card (page.map Entry.index).toFinset g.keys.toFinset
  rw [← hkeys, hcard, hcard] at hunion
  omega

/-- A change in place changes the node at one index. -/
theorem get?_modify (g : Graph) (i : MessageIndex) (f : Node → Node) (j : MessageIndex) :
    (g.modify i f).get? j = if j = i then (g.get? j).map f else g.get? j := by
  have hmem : ∀ m, (⟨j, m⟩ : Entry) ∈ (g.modify i f).entries ↔
      ∃ n, (⟨j, n⟩ : Entry) ∈ g.entries ∧ (if j = i then f n else n) = m := by
    intro m
    simp only [modify, List.mem_map]
    constructor
    · rintro ⟨e, he, heq⟩
      obtain rfl : e.index = j := by
        have := congrArg Entry.index heq
        split at this <;> exact this
      refine ⟨e.node, he, ?_⟩
      have := congrArg Entry.node heq
      split at this
      · next h => rwa [if_pos h]
      · next h => rwa [if_neg h]
    · rintro ⟨n, he, rfl⟩
      refine ⟨_, he, ?_⟩
      split <;> rfl
  ext m
  rw [get?_eq_some_iff, hmem]
  simp only [← get?_eq_some_iff]
  split
  · rw [Option.map_eq_some_iff]
  · exact exists_eq_right

theorem get?_acknowledge (g : Graph) (i j : MessageIndex) :
    (g.acknowledge i).get? j = if j = i then (g.get? j).map Node.acknowledged else g.get? j :=
  get?_modify g i _ j

theorem get?_delete (g : Graph) (i j : MessageIndex) :
    (g.delete i).get? j = if j = i then (g.get? j).map fun _ => .deleted else g.get? j :=
  get?_modify g i _ j

/-- Where nothing is pending there is nothing to acknowledge. -/
theorem acknowledge_of_not_pending (h : ¬ g.isPending i = true) : g.acknowledge i = g := by
  refine ext_get? fun j => ?_
  rw [get?_acknowledge]
  split
  · next hj =>
    rw [isPending, ← hj] at h
    cases hn : g.get? j with
    | none => rfl
    | some n =>
      cases n with
      | deleted => rfl
      | post m =>
        rw [hn] at h
        have hm : m.acknowledged = m := Message.ext rfl rfl rfl (eq_false_of_ne_true h).symm
        exact congrArg (some ∘ Node.post) hm
  · rfl

/-- Where there is no post there is nothing to delete. -/
theorem delete_of_not_post (h : ¬ g.isPost i = true) : g.delete i = g := by
  refine ext_get? fun j => ?_
  rw [get?_delete]
  split
  · next hj =>
    rw [isPost, post?, ← hj] at h
    cases hn : g.get? j with
    | none => rfl
    | some n =>
      cases n with
      | deleted => rfl
      | post m =>
        rw [hn] at h
        exact absurd rfl h
  · rfl

end Scrollback.Graph
