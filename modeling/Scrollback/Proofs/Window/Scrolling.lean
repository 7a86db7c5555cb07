import Scrollback.Proofs.Graph.Map
import Scrollback.Proofs.Window.Viewport
/-!
# Scrolling counts

A viewport remembers a message, and not how far it is from the newest one. All the same the reader
scrolls as if it counted: each move takes the offset to another one that depends on nothing but the
offset, the number of loaded messages and the height. It does so from every viewport, be its anchor
loaded or not. Messages that join the newest end add to the offset of an anchored view, and messages
that join the oldest end do not.

## Main definitions

* `Viewport.Scroll`, `Viewport.after` — a move of the viewport.
* `Viewport.Scroll.count` — what it does to an offset.
* `Viewport.ShowsAt` — the message at a position is on screen.

## Main statements

* `Viewport.bottomPosition?_eq` — the message at the bottom, by the offset.
* `Viewport.offset_after` — a move takes the offset where the counter goes.
* `Viewport.offset_counts` — so does a sequence of moves, and what is loaded at either end.
-/

namespace Scrollback

namespace Graph

variable {g : Graph} {page : List Entry} {i : MessageIndex}

theorem mem_gained_extend (hi : i ∈ g.gained (g.extend page).1) : ∃ e ∈ page, e.index = i := by
  obtain ⟨hmem, hnot⟩ := List.mem_filter.1 hi
  rcases mem_keys_extend.1 hmem with hpage | hheld
  · exact List.mem_map.1 hpage
  · rw [contains_iff_mem_keys.2 hheld] at hnot
    cases hnot

/-- A page of messages that are newer than one loaded message adds to what is newer than that one. -/
theorem newer_extend_of_lt (h : ∀ e ∈ page, i < e.index) :
    (g.extend page).1.newer i = g.newer i + (g.extend page).2 := by
  rw [newer_of_subset (g.keys_subset_extend page), ← length_gained_extend, Nat.add_left_cancel_iff,
    List.countP_eq_length]
  intro j hj
  obtain ⟨e, he, rfl⟩ := mem_gained_extend hj
  exact decide_eq_true (h e he)

/-- A page of older messages does not. -/
theorem newer_extend_of_gt (h : ∀ e ∈ page, e.index < i) :
    (g.extend page).1.newer i = g.newer i := by
  rw [newer_of_subset (g.keys_subset_extend page), Nat.add_eq_left, List.countP_eq_zero]
  intro j hj hlt
  obtain ⟨e, he, rfl⟩ := mem_gained_extend hj
  exact MessageIndex.lt_irrefl i (MessageIndex.lt_trans (of_decide_eq_true hlt) (h e he))

/-- A page adds as many messages as it holds, if they are distinct and none of them is loaded. -/
theorem extend_snd_of_nodup (hpage : (page.map Entry.index).Nodup)
    (hnew : ∀ e ∈ page, e.index ∉ g.keys) : (g.extend page).2 = page.length := by
  have hdisjoint : Disjoint (page.map Entry.index).toFinset g.keys.toFinset := by
    rw [Finset.disjoint_left]
    intro i hi hmem
    obtain ⟨e, he, rfl⟩ := List.mem_map.1 (List.mem_toFinset.1 hi)
    exact hnew e he (List.mem_toFinset.1 hmem)
  rw [extend_snd, Finset.sdiff_eq_self_of_disjoint hdisjoint, List.toFinset_card_of_nodup hpage,
    List.length_map]

end Graph

namespace Viewport

variable {g : Graph} {v : Viewport} {k : MessageIndex} {p n : Nat} {page : List Entry}

/-! ## The message at the bottom -/

theorem offset_lt (hsize : 0 < g.size) (v : Viewport) : v.offset g < g.size := by
  by_cases hzero : v.offset g = 0
  · omega
  · obtain ⟨k, hv, hk⟩ := exists_anchor hzero
    obtain ⟨p, hp⟩ := Graph.exists_position hk
    rw [offset_of_anchor hv hk, Graph.newer_eq hp]
    omega

/-- **The message at the bottom stands as far from the newest one as the offset tells.** -/
theorem bottomPosition?_eq (hsize : 0 < g.size) (v : Viewport) :
    v.bottomPosition? g = some (g.size - 1 - v.offset g) := by
  by_cases hzero : v.offset g = 0
  · rw [hzero, Nat.sub_zero, ← bottomPosition?_of_none (v := { v with anchor := none }) rfl hsize,
      bottomPosition?, bottomPosition?, (offset_eq_zero_iff v g).1 hzero]
    rfl
  · obtain ⟨k, hv, hk⟩ := exists_anchor hzero
    obtain ⟨p, hp⟩ := Graph.exists_position hk
    obtain ⟨hlt, -⟩ := List.getElem?_eq_some_iff.1 hp
    rw [← Graph.size_eq_length_keys] at hlt
    rw [bottomPosition?_of_anchor hv hp, offset_of_anchor hv hk, Graph.newer_eq hp]
    congr 1
    omega

theorem bottom?_eq (hsize : 0 < g.size) (v : Viewport) :
    v.bottom? g = g.keyAt? (g.size - 1 - v.offset g) := by
  obtain ⟨k, hk, hposition⟩ := Option.bind_eq_some_iff.1 (bottomPosition?_eq hsize v)
  rw [hk, Graph.keyAt?_eq, Graph.positionOf?_eq_some_iff.1 hposition]

/-- The message at a position is on screen: it is no further above the one at the bottom than there
are rows. -/
def ShowsAt (v : Viewport) (g : Graph) (p : Nat) : Prop :=
  ∃ bottom, v.bottomPosition? g = some bottom ∧ p ≤ bottom ∧ bottom < p + v.visible

/-! ## Moves -/

/-- A move of the viewport. -/
inductive Scroll where
  /-- Toward older messages. -/
  | up (n : Nat)
  /-- Toward newer messages. -/
  | down (n : Nat)
  /-- To a message, which becomes the oldest visible one where history allows. -/
  | toIndex (i : MessageIndex)
  /-- To the newest message. -/
  | toLatest

/-- The viewport after a move. -/
def after (g : Graph) (v : Viewport) : Scroll → Viewport
  | .up n => v.scrollUp g n
  | .down n => v.scrollDown g n
  | .toIndex i => v.scrollToIndex g i
  | .toLatest => v.scrollToLatest

/-- What a move does to an offset, on a screen of so many rows. -/
def Scroll.count (g : Graph) (rows offset : Nat) : Scroll → Nat
  | .up n => min (offset + n) (g.size - 1)
  | .down n => offset - min n offset
  | .toIndex i => (g.positionOf? i).elim offset fun p => g.size - p - rows
  | .toLatest => 0

theorem visible_pos (v : Viewport) : 0 < v.visible := Nat.le_max_right v.height 1

@[simp] theorem visible_after (g : Graph) (v : Viewport) (s : Scroll) :
    (v.after g s).visible = v.visible := by
  cases s with
  | up n =>
    rw [after, scrollUp]
    split <;> rfl
  | down n =>
    rw [after, scrollDown]
    split <;> rfl
  | toIndex i => exact visible_apply g v (.scrollToIndex i)
  | toLatest => rfl

theorem offset_of_keyAt (hv : v.anchor = g.keyAt? p) (hp : p < g.size) :
    v.offset g = g.size - 1 - p := by
  rw [Graph.size_eq_length_keys] at hp
  have hk := List.getElem?_eq_getElem hp
  rw [Graph.keyAt?_eq, hk] at hv
  rw [offset_of_anchor hv (Graph.contains_iff_mem_keys.2 (List.getElem_mem hp)), Graph.newer_eq hk]

theorem offset_scrollUp (hsize : 0 < g.size) (v : Viewport) (n : Nat) :
    (v.scrollUp g n).offset g = min (v.offset g + n) (g.size - 1) := by
  have hlt := offset_lt hsize v
  rw [scrollUp, bottomPosition?_eq hsize]
  dsimp only
  rw [offset_of_keyAt rfl (by omega)]
  omega

theorem offset_scrollDown (hsize : 0 < g.size) (v : Viewport) (n : Nat) :
    (v.scrollDown g n).offset g = v.offset g - min n (v.offset g) := by
  have hlt := offset_lt hsize v
  rw [scrollDown, bottomPosition?_eq hsize]
  dsimp only
  rw [offset_of_anchorAt rfl]
  omega

theorem anchorAt_eq_none_iff (hsize : 0 < g.size) : anchorAt g p = none ↔ g.size - 1 ≤ p := by
  rw [anchorAt]
  split
  · next hend => exact iff_of_true rfl hend
  · next hbefore =>
    have hlt : p < g.keys.length := by
      rw [← Graph.size_eq_length_keys]
      omega
    rw [Graph.keyAt?_eq, List.getElem?_eq_getElem hlt]
    exact iff_of_false (Option.some_ne_none _) hbefore

/-- Scrolling down follows the newest message from there on where it comes to it. -/
theorem anchor_scrollDown_eq_none_iff (hsize : 0 < g.size) (v : Viewport) (n : Nat) :
    (v.scrollDown g n).anchor = none ↔ v.offset g - min n (v.offset g) = 0 := by
  have hlt := offset_lt hsize v
  rw [scrollDown, bottomPosition?_eq hsize]
  dsimp only
  rw [anchorAt_eq_none_iff hsize]
  omega

theorem offset_scrollToIndex_eq (h : g.positionOf? k = some p) :
    (v.scrollToIndex g k).offset g = g.size - p - v.visible := by
  have hvisible := v.visible_pos
  rw [offset_scrollToIndex h]
  omega

/-- A message that is gone to is on screen. -/
theorem showsAt_scrollToIndex (h : g.positionOf? k = some p) :
    (v.scrollToIndex g k).ShowsAt g p := by
  have hlt : p < g.size := by
    rw [Graph.size_eq_length_keys]
    exact (List.getElem?_eq_some_iff.1 (Graph.positionOf?_eq_some_iff.1 h)).1
  have hvisible := v.visible_pos
  refine ⟨_, bottomPosition?_eq (by omega) _, ?_⟩
  have hrows : (v.scrollToIndex g k).visible = v.visible := visible_apply g v (.scrollToIndex k)
  rw [offset_scrollToIndex_eq h, hrows]
  omega

/-- **A move takes the offset where the counter goes.** -/
theorem offset_after (hsize : 0 < g.size) (v : Viewport) (s : Scroll) :
    (v.after g s).offset g = s.count g v.visible (v.offset g) := by
  cases s with
  | up n => exact offset_scrollUp hsize v n
  | down n => exact offset_scrollDown hsize v n
  | toLatest => exact offset_of_none rfl
  | toIndex i =>
    rw [after, Scroll.count]
    cases hposition : g.positionOf? i with
    | some p => exact offset_scrollToIndex_eq hposition
    | none =>
      rw [scrollToIndex, hposition]
      rfl

/-- A sequence of moves is counted move by move. -/
theorem offset_foldl_after (hsize : 0 < g.size) (v : Viewport) (ss : List Scroll) :
    (ss.foldl (after g) v).offset g = ss.foldl (Scroll.count g v.visible) (v.offset g) := by
  induction ss generalizing v with
  | nil => rfl
  | cons s ss ih => rw [List.foldl_cons, List.foldl_cons, ih, offset_after hsize, visible_after]

/-! ## Messages that join the loaded ones -/

theorem contains_extend (h : g.contains k = true) (page : List Entry) :
    (g.extend page).1.contains k = true :=
  Graph.contains_iff_mem_keys.2 (g.keys_subset_extend page (Graph.contains_iff_mem_keys.1 h))

/-- Newer messages move an anchored view away from the end. -/
theorem offset_extend_newer (hv : v.anchor = some k) (hk : g.contains k = true)
    (hpage : (page.map Entry.index).Nodup) (hnewer : ∀ e ∈ page, ∀ j ∈ g.keys, j < e.index) :
    v.offset (g.extend page).1 = v.offset g + page.length := by
  have hmem := Graph.contains_iff_mem_keys.1 hk
  have hnew : ∀ e ∈ page, e.index ∉ g.keys := fun e he hheld =>
    MessageIndex.lt_irrefl _ (hnewer e he _ hheld)
  rw [offset_of_anchor hv (contains_extend hk page), offset_of_anchor hv hk,
    Graph.newer_extend_of_lt fun e he => hnewer e he k hmem, Graph.extend_snd_of_nodup hpage hnew]

/-- Older messages move no view whose anchor is loaded, and none that follows the newest message. -/
theorem offset_extend_older (hv : ∀ k, v.anchor = some k → g.contains k = true)
    (holder : ∀ e ∈ page, ∀ j ∈ g.keys, e.index < j) :
    v.offset (g.extend page).1 = v.offset g := by
  cases hanchor : v.anchor with
  | none => rw [offset_of_none hanchor, offset_of_none hanchor]
  | some k =>
    have hk := hv k hanchor
    have hmem := Graph.contains_iff_mem_keys.1 hk
    rw [offset_of_anchor hanchor (contains_extend hk page), offset_of_anchor hanchor hk,
      Graph.newer_extend_of_gt fun e he => holder e he k hmem]

/-- **Scrolling is counting.** Over loaded messages, from any viewport: the offset tells which
message is at the bottom. Scrolling up adds to the offset as far as there are messages, scrolling
down takes from it, and follows the newest message just from where nothing is left of it. Going to
a loaded message leads to the offset at which it is the oldest visible one, as far as there are newer
ones, and shows it. A sequence of moves does to the offset what each of them does to a counter. A
page of newer messages adds their number to the offset of a view that is anchored to a loaded
message, and a page of older ones leaves every offset but that of a view whose anchor is not
loaded. -/
theorem offset_counts (hsize : 0 < g.size) (v : Viewport) :
    v.bottom? g = g.keyAt? (g.size - 1 - v.offset g) ∧
    (∀ n, (v.scrollUp g n).offset g = min (v.offset g + n) (g.size - 1)) ∧
    (∀ n, (v.scrollDown g n).offset g = v.offset g - min n (v.offset g) ∧
      ((v.scrollDown g n).anchor = none ↔ v.offset g - min n (v.offset g) = 0)) ∧
    (∀ k p, g.positionOf? k = some p →
      (v.scrollToIndex g k).offset g = g.size - p - max v.height 1 ∧
        (v.scrollToIndex g k).ShowsAt g p) ∧
    (∀ ss : List Scroll,
      (ss.foldl (after g) v).offset g = ss.foldl (Scroll.count g (max v.height 1)) (v.offset g)) ∧
    (∀ page : List Entry, (page.map Entry.index).Nodup → (∀ e ∈ page, ∀ j ∈ g.keys, j < e.index) →
      ∀ k, v.anchor = some k → g.contains k = true →
        v.offset (g.extend page).1 = v.offset g + page.length) ∧
    ∀ page : List Entry, (∀ e ∈ page, ∀ j ∈ g.keys, e.index < j) →
      (∀ k, v.anchor = some k → g.contains k = true) →
        v.offset (g.extend page).1 = v.offset g := by
  refine ⟨bottom?_eq hsize v, offset_scrollUp hsize v, fun n => ⟨offset_scrollDown hsize v n,
    anchor_scrollDown_eq_none_iff hsize v n⟩, fun k p hposition =>
    ⟨offset_scrollToIndex_eq hposition, showsAt_scrollToIndex hposition⟩,
    offset_foldl_after hsize v, ?_, ?_⟩
  · intro page hpage hnewer k hv hk
    exact offset_extend_newer hv hk hpage hnewer
  · intro page holder hv
    exact offset_extend_older hv holder

/-- A view of the second of three messages scrolls up as far as it can and down by one. Two newer
messages move it away from the end, an older one does not. -/
theorem offset_counts_three : ∃ (g : Graph) (v : Viewport) (newer older : List Entry),
    g.size = 3 ∧ v.offset g = 1 ∧
      ([Scroll.up 7, .down 1].foldl (after g) v).offset g = 1 ∧
      newer.length = 2 ∧ v.offset (g.extend newer).1 = 3 ∧
      older.length = 1 ∧ v.offset (g.extend older).1 = 1 := by
  let g : Graph := .ofEntries
    [⟨⟨2, by decide⟩, .deleted⟩, ⟨⟨3, by decide⟩, .deleted⟩, ⟨⟨4, by decide⟩, .deleted⟩]
  let v : Viewport := { anchor := some ⟨3, by decide⟩, height := 10 }
  let newer : List Entry := [⟨⟨5, by decide⟩, .deleted⟩, ⟨⟨6, by decide⟩, .deleted⟩]
  let older : List Entry := [⟨⟨1, by decide⟩, .deleted⟩]
  have hone : v.offset g = 1 := by decide +kernel
  have hloaded : ∀ k, v.anchor = some k → g.contains k = true := by
    rintro k ⟨⟩
    decide +kernel
  obtain ⟨-, -, -, -, hmoves, hnewer, holder⟩ :=
    offset_counts (g := g) (by decide +kernel) v
  refine ⟨g, v, newer, older, by decide +kernel, hone, ?_, rfl, ?_, rfl, ?_⟩
  · rw [hmoves, hone]
    decide +kernel
  · rw [hnewer newer (by decide) (by decide +kernel) _ rfl (hloaded _ rfl), hone]
    rfl
  · rw [holder older (by decide +kernel) hloaded, hone]

end Viewport

end Scrollback
