import Scrollback.Proofs.Graph.Boundary
import Scrollback.Proofs.Graph.Ranked
/-!
# Counting down to the unread boundary

A graph with a table of ranks finds the unread boundary by positions: it starts as many places before
the end as there are unread messages, and goes on toward the end until it comes upon a post. So it
finds the first post from that position on, which is the boundary among the entries. Messages that
join before all others move the positions of the others, but the positions are counted from the end.

## Main definitions

* `RankedGraph.FirstPost` — the first position from a given one on that holds a post.

## Main statements

* `RankedGraph.Ranks.unreadBoundary?_eq` — counting down finds the boundary among the entries.
* `Graph.exists_entries_extend` — an older page is put before all other entries.
* `RankedGraph.unreadBoundary?_rank` — the boundary by its position, and what does not bear on it.
-/

namespace Scrollback

theorem Node.isDeleted_iff {x : Node} : x.isDeleted = true ↔ x = .deleted := by
  cases x <;> simp [Node.isDeleted]

namespace Graph

variable {g : Graph} {s : Nat} {e : Entry} {pre es page : List Entry}

/-! ## Among the entries -/

/-- The first post from a position on, by its position. -/
theorem find?_drop_eq_some_iff : (es.drop s).find? (!·.node.isDeleted) = some e ↔
    ∃ p, s ≤ p ∧ es[p]? = some e ∧ e.node.isDeleted = false ∧
      ∀ q x, s ≤ q → q < p → es[q]? = some x → x.node.isDeleted = true := by
  rw [List.find?_eq_some_iff_getElem]
  constructor
  · rintro ⟨hpost, k, hk, hget, hbefore⟩
    rw [List.length_drop] at hk
    rw [List.getElem_drop] at hget
    refine ⟨s + k, Nat.le_add_right s k, ?_, by simpa using hpost, fun q x hsq hqp hx => ?_⟩
    · rw [List.getElem?_eq_getElem (by omega), hget]
    · obtain ⟨hq, rfl⟩ := List.getElem?_eq_some_iff.1 hx
      have hdeleted := hbefore (q - s) (by omega)
      simpa [List.getElem_drop, Nat.add_sub_cancel' hsq] using hdeleted
  · rintro ⟨p, hsp, hget, hpost, hbefore⟩
    obtain ⟨hp, rfl⟩ := List.getElem?_eq_some_iff.1 hget
    refine ⟨by simp [hpost], p - s, by rw [List.length_drop]; omega, ?_, fun j hj => ?_⟩
    · simp [List.getElem_drop, Nat.add_sub_cancel' hsp]
    · have hdeleted := hbefore (s + j) _ (Nat.le_add_right s j) (by omega)
        (List.getElem?_eq_getElem (by omega))
      simp [List.getElem_drop, hdeleted]

/-- There is none if all entries from the position on have been deleted. -/
theorem find?_drop_eq_none_iff : (es.drop s).find? (!·.node.isDeleted) = none ↔
    ∀ p x, s ≤ p → es[p]? = some x → x.node.isDeleted = true := by
  rw [List.find?_eq_none]
  constructor
  · intro h p x hsp hx
    have hmem : x ∈ es.drop s := by
      refine List.mem_iff_getElem?.2 ⟨p - s, ?_⟩
      rw [List.getElem?_drop, Nat.add_sub_cancel' hsp, hx]
    simpa using h x hmem
  · intro h x hx
    obtain ⟨k, hk⟩ := List.mem_iff_getElem?.1 hx
    rw [List.getElem?_drop] at hk
    simp [h (s + k) x (Nat.le_add_right s k) hk]

/-! ## Older pages -/

/-- An entry older than some others is put before them. -/
theorem place_append (h : ∀ x ∈ es, e.index < x.index) :
    place e (pre ++ es) = place e pre ++ es := by
  induction pre with
  | nil =>
    cases es with
    | nil => rfl
    | cons x es => exact if_pos (h x (List.mem_cons_self ..))
  | cons y pre ih =>
    rw [List.cons_append, place, place]
    split
    · rfl
    · split
      · rfl
      · rw [ih, List.cons_append]

/-- A page that is older than all other entries is put before them. -/
theorem exists_entries_extend (h : ∀ e ∈ page, ∀ x ∈ g.entries, e.index < x.index) :
    ∃ pre, (g.extend page).1.entries = pre ++ g.entries := by
  induction page using List.reverseRecOn with
  | nil => exact ⟨[], rfl⟩
  | append_singleton page e ih =>
    obtain ⟨pre, hpre⟩ := ih fun x hx => h x (List.mem_append_left _ hx)
    refine ⟨place e pre, ?_⟩
    have he : ∀ x ∈ g.entries, e.index < x.index :=
      h e (List.mem_append_right _ (List.mem_singleton_self e))
    rw [extend_concat]
    change place e (g.extend page).1.entries = _
    rw [hpre, place_append he]

/-- What is older than the oldest entry is older than all of them. -/
theorem lt_of_smallest? {i : MessageIndex} (h : ∀ k, g.smallest? = some k → i < k) :
    ∀ x ∈ g.entries, i < x.index := by
  intro x hx
  obtain ⟨p, hp⟩ := List.mem_iff_getElem?.1 hx
  have hsize : 0 < g.size := Nat.zero_lt_of_lt (List.getElem?_eq_some_iff.1 hp).1
  obtain ⟨first, hfirst, hsmall⟩ := g.exists_first hsize
  have hle := (g.sorted.index_le_iff hfirst hp).2 (Nat.zero_le p)
  exact Nat.lt_of_lt_of_le (h _ hsmall) hle

end Graph

namespace RankedGraph

variable {g r : RankedGraph} {es : List Entry} {i : MessageIndex} {n p : Nat}

/-! ## Counting down -/

/-- With `n` places left to try, the first post from the `n`-th last position on is found. -/
theorem Lists.oldestPost?_eq (h : g.Lists es) (hn : n ≤ es.length) :
    g.oldestPost? n = ((es.drop (es.length - n)).find? (!·.node.isDeleted)).map Entry.index := by
  induction n with
  | zero =>
    rw [Nat.sub_zero, List.drop_length]
    rfl
  | succ n ih =>
    have hlt : es.length - (n + 1) < es.length := by omega
    have hdrop : es.drop (es.length - (n + 1)) =
        es[es.length - (n + 1)] :: es.drop (es.length - n) := by
      rw [List.drop_eq_getElem_cons hlt]
      congr 2
      omega
    have hkey : g.keyAt? (g.size - (n + 1)) = some es[es.length - (n + 1)].index := by
      rw [h.keyAt?, h.size, List.getElem?_eq_getElem hlt, Option.map_some]
    have hget : g.get? es[es.length - (n + 1)].index = some es[es.length - (n + 1)].node :=
      (h.get? _ _).2 (List.getElem_mem hlt)
    simp only [oldestPost?, hkey, hget, Option.any_some]
    rw [hdrop, List.find?_cons]
    cases es[es.length - (n + 1)].node.isDeleted with
    | false => rfl
    | true => exact ih (by omega)

/-- **Counting down finds the boundary among the entries.** -/
theorem Ranks.unreadBoundary?_eq (h : g.Ranks) (n : Nat) :
    g.unreadBoundary? n = g.nodes.unreadBoundary? n := by
  rw [unreadBoundary?, Graph.unreadBoundary?, h.size]
  split
  · rfl
  · next hn =>
    rw [h.lists.oldestPost?_eq (by rw [← Graph.size]; omega), Graph.size]

/-! ## By position -/

/-- From a position on, the first one that holds a post is found: all positions before it hold the
traces of deleted messages. -/
structure FirstPost (g : RankedGraph) (start p : Nat) : Prop where
  le : start ≤ p
  isPost : ∃ m, g.nodeAt? p = some (.post m)
  deleted : ∀ q, start ≤ q → q < p → g.nodeAt? q = some .deleted

theorem Lists.nodeAt?_eq_deleted_iff (h : g.Lists es) {x : Entry} (hx : es[p]? = some x) :
    g.nodeAt? p = some .deleted ↔ x.node.isDeleted = true := by
  rw [h.nodeAt?, hx, Option.map_some, Option.some.injEq, Node.isDeleted_iff]

theorem Lists.exists_post_iff (h : g.Lists es) : (∃ m, g.nodeAt? p = some (.post m)) ↔
    ∃ e, es[p]? = some e ∧ e.node.isDeleted = false := by
  simp only [h.nodeAt?, Option.map_eq_some_iff]
  constructor
  · rintro ⟨m, e, he, hpost⟩
    exact ⟨e, he, hpost ▸ rfl⟩
  · rintro ⟨⟨i, x⟩, he, hpost⟩
    cases x with
    | post m => exact ⟨m, _, he, rfl⟩
    | deleted => cases hpost

/-- Among the entries, the first post from a position on. -/
theorem Lists.firstPost_iff (h : g.Lists es) {start : Nat} :
    g.FirstPost start p ↔ start ≤ p ∧ (∃ e, es[p]? = some e ∧ e.node.isDeleted = false) ∧
      ∀ q x, start ≤ q → q < p → es[q]? = some x → x.node.isDeleted = true := by
  constructor
  · rintro ⟨hle, hpost, hdeleted⟩
    refine ⟨hle, h.exists_post_iff.1 hpost, fun q x hsq hqp hx => ?_⟩
    exact (h.nodeAt?_eq_deleted_iff hx).1 (hdeleted q hsq hqp)
  · rintro ⟨hle, ⟨e, he, hpost⟩, hdeleted⟩
    refine ⟨hle, h.exists_post_iff.2 ⟨e, he, hpost⟩, fun q hsq hqp => ?_⟩
    -- a position before one that holds something holds something as well
    have hq : q < es.length := Nat.lt_trans hqp (List.getElem?_eq_some_iff.1 he).1
    have hx := List.getElem?_eq_getElem hq
    exact (h.nodeAt?_eq_deleted_iff hx).2 (hdeleted q _ hsq hqp hx)

/-- The boundary is at the first post from the start of the newest places on. -/
theorem Ranks.unreadBoundary?_eq_some_iff (h : g.Ranks) : g.unreadBoundary? n = some i ↔
    0 < n ∧ n ≤ g.size ∧ ∃ p, g.FirstPost (g.size - n) p ∧ g.keyAt? p = some i := by
  rw [h.unreadBoundary?_eq, Graph.unreadBoundary?_eq_some_iff, ← h.size]
  refine and_congr_right' (and_congr_right' ?_)
  rw [Option.map_eq_some_iff]
  constructor
  · rintro ⟨e, hfind, rfl⟩
    obtain ⟨p, hle, he, hpost, hdeleted⟩ := Graph.find?_drop_eq_some_iff.1 hfind
    refine ⟨p, h.lists.firstPost_iff.2 ⟨hle, ⟨e, he, hpost⟩, hdeleted⟩, ?_⟩
    rw [h.lists.keyAt?, he, Option.map_some]
  · rintro ⟨p, hfirst, hkey⟩
    obtain ⟨hle, ⟨e, he, hpost⟩, hdeleted⟩ := h.lists.firstPost_iff.1 hfirst
    refine ⟨e, Graph.find?_drop_eq_some_iff.2 ⟨p, hle, he, hpost, hdeleted⟩, ?_⟩
    rw [h.lists.keyAt?, he, Option.map_some] at hkey
    exact Option.some.inj hkey

/-- There is none if nothing is unread, if the unread messages are not all loaded, and if all of them
were deleted. -/
theorem Ranks.unreadBoundary?_eq_none_iff (h : g.Ranks) : g.unreadBoundary? n = none ↔
    n = 0 ∨ g.size < n ∨ ∀ p, g.size - n ≤ p → p < g.size → g.nodeAt? p = some .deleted := by
  rw [h.unreadBoundary?_eq, Graph.unreadBoundary?, ← h.size]
  split
  · next hn => exact iff_of_true rfl (hn.imp_right .inl)
  · next hn =>
    rw [not_or] at hn
    rw [Option.map_eq_none_iff, Graph.find?_drop_eq_none_iff, or_iff_right hn.1, or_iff_right hn.2]
    constructor
    · intro hall p hle hp
      rw [h.lists.size] at hp
      have hx := List.getElem?_eq_getElem hp
      exact (h.lists.nodeAt?_eq_deleted_iff hx).2 (hall p _ hle hx)
    · intro hall p x hle hx
      have hp : p < g.size := h.lists.size ▸ (List.getElem?_eq_some_iff.1 hx).1
      exact (h.lists.nodeAt?_eq_deleted_iff hx).1 (hall p hle hp)

/-! ## What does not bear on it -/

/-- Of a graph that ends with all entries of another, the newest places are those of the other. -/
theorem Ranks.unreadBoundary?_of_suffix (h : g.Ranks) (hr : r.Ranks) (hn : n ≤ g.size)
    (hsuffix : g.toList <:+ r.toList) : g.unreadBoundary? n = r.unreadBoundary? n := by
  obtain ⟨pre, hpre⟩ := hsuffix
  rw [h.unreadBoundary?_eq, hr.unreadBoundary?_eq]
  exact Graph.unreadBoundary?_of_suffix hpre.symm (h.size ▸ hn)

/-- An older page is put before all other entries. -/
theorem Ranks.suffix_extend (h : g.Ranks) {page : List Entry}
    (hpage : ∀ e ∈ page, ∀ i, g.smallest? = some i → e.index < i) :
    g.toList <:+ (g.extend page).1.toList := by
  have hsmallest : g.smallest? = g.nodes.smallest? := h.lists.smallest?
  obtain ⟨pre, hpre⟩ := Graph.exists_entries_extend fun e he =>
    Graph.lt_of_smallest? fun k hk => hpage e he k (hsmallest.trans hk)
  refine ⟨pre, ?_⟩
  rw [RankedGraph.toList, RankedGraph.toList, (g.extend_eq page).1]
  exact hpre.symm

/-- **The unread boundary by its position.** Whatever was done to a graph before, there is no boundary
for no unread messages, nor for more than are loaded. Otherwise it is the index at the first position,
from as many places before the end on as messages are unread, that holds a post; and there is none if
all of these were deleted. This is the boundary among the entries. A page that is older than all that
is loaded leaves it as it is, and so it is the same in any other graph that ends with what is loaded,
such as the whole history. -/
theorem unreadBoundary?_rank (edits : List Edit) (unread : Nat) :
    let g := edits.foldl edit empty
    (∀ i, g.unreadBoundary? unread = some i ↔ 0 < unread ∧ unread ≤ g.size ∧
      ∃ p, g.FirstPost (g.size - unread) p ∧ g.keyAt? p = some i) ∧
    (g.unreadBoundary? unread = none ↔ unread = 0 ∨ g.size < unread ∨
      ∀ p, g.size - unread ≤ p → p < g.size → g.nodeAt? p = some .deleted) ∧
    g.unreadBoundary? unread = g.nodes.unreadBoundary? unread ∧
    (unread ≤ g.size →
      (∀ page, (∀ e ∈ page, ∀ i, g.smallest? = some i → e.index < i) →
        (g.extend page).1.unreadBoundary? unread = g.unreadBoundary? unread) ∧
      ∀ others : List Edit, g.toList <:+ (others.foldl edit empty).toList →
        g.unreadBoundary? unread = (others.foldl edit empty).unreadBoundary? unread) := by
  intro g
  have h : g.Ranks := Ranks.foldl_edit ranks_empty edits
  refine ⟨fun i => h.unreadBoundary?_eq_some_iff, h.unreadBoundary?_eq_none_iff,
    h.unreadBoundary?_eq unread, fun hn => ⟨fun page hpage => ?_, fun others => ?_⟩⟩
  · exact (h.unreadBoundary?_of_suffix (h.extend page) hn (h.suffix_extend hpage)).symm
  · exact h.unreadBoundary?_of_suffix (Ranks.foldl_edit ranks_empty others) hn

/-- Of three messages the second is deleted, and the last two are unread. The last one is the
boundary, with two older messages as well, whether they join later or were there before. -/
theorem unreadBoundary?_rank_three :
    ∃ (edits others : List Edit) (page : List Entry) (i : MessageIndex),
    let g := edits.foldl edit empty
    let whole := others.foldl edit empty
    g.size = 3 ∧ g.nodeAt? 1 = some .deleted ∧ g.keyAt? 2 = some i ∧ whole.size = 5 ∧
      g.unreadBoundary? 2 = some i ∧ (g.extend page).1.unreadBoundary? 2 = some i ∧
      whole.unreadBoundary? 2 = some i := by
  let m : Message := .ofText "bus" "hi" ⟨⟨2024, 7, 1⟩, 43200, 0⟩
  let page : List Entry := [⟨⟨2, by decide⟩, .post m⟩, ⟨⟨3, by decide⟩, .deleted⟩]
  let three : List Entry :=
    [⟨⟨5, by decide⟩, .post m⟩, ⟨⟨6, by decide⟩, .post m⟩, ⟨⟨8, by decide⟩, .post m⟩]
  let edits : List Edit := [.extend three, .delete ⟨6, by decide⟩]
  let others : List Edit := [.extend (page ++ three), .delete ⟨6, by decide⟩]
  obtain ⟨-, -, -, hrest⟩ := unreadBoundary?_rank edits 2
  obtain ⟨hpage, hwhole⟩ := hrest (by decide +kernel)
  have hboundary : (edits.foldl edit empty).unreadBoundary? 2 = some ⟨8, by decide⟩ := by
    decide +kernel
  refine ⟨edits, others, page, ⟨8, by decide⟩, by decide +kernel, by decide +kernel,
    by decide +kernel, by decide +kernel, hboundary, ?_, ?_⟩
  · have hfirst : (edits.foldl edit empty).smallest? = some ⟨5, by decide⟩ := by decide +kernel
    rw [hpage page, hboundary]
    intro e he i hi
    obtain rfl := Option.some.inj (hfirst.symm.trans hi)
    revert e
    decide +kernel
  · rw [← hwhole others (by decide +kernel), hboundary]

end RankedGraph

end Scrollback
