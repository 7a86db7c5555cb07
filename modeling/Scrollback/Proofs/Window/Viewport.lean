import Scrollback.Proofs.Graph.Position
import Scrollback.Proofs.Window.View
import Scrollback.Window
/-!
# What a viewport shows

A viewport that is anchored to a loaded message shows it at the bottom, and its offset is the number
of loaded messages that are newer. Any other viewport follows the newest message. The effects of a
transition move a viewport only if they scroll.

## Main statements

* `Viewport.offset_of_anchor`, `Viewport.offset_of_not_contains` — the offset of either kind.
* `Viewport.offset_eq_zero_iff` — a viewport without an offset shows the newest message.
* `Viewport.foldl_apply` — a transition that keeps a view leaves the viewport.
-/

namespace Scrollback

namespace Viewport

variable {g r : Graph} {v : Viewport} {k : MessageIndex} {p n : Nat}

theorem apply_of_not_scrolls {e : Effect} (he : e.scrolls = false) : v.apply g e = v := by
  cases e with
  | scrollToIndex i => cases he
  | scrollToLatest => cases he
  | _ => rfl

/-- Effects that move the view to the newest message at most leave a view that follows it. -/
theorem foldl_apply {mode : ScrollMode} {es : List Effect}
    (hv : mode = .lockedToBottom → v.anchor = none)
    (hes : ∀ e ∈ es, e.scrolls = true → e = .scrollToLatest ∧ mode = .lockedToBottom) :
    es.foldl (apply g) v = v := by
  induction es with
  | nil => rfl
  | cons e es ih =>
    obtain ⟨he, hes⟩ := List.forall_mem_cons.1 hes
    have happly : v.apply g e = v := by
      cases hscrolls : e.scrolls with
      | false => exact apply_of_not_scrolls hscrolls
      | true =>
        obtain ⟨rfl, hlocked⟩ := he hscrolls
        have hnone := hv hlocked
        cases v
        cases hnone
        rfl
    rw [List.foldl_cons, happly]
    exact ih hes

/-- Effects that move the view to the newest message, and nowhere else, leave it there. -/
theorem foldl_apply_latest {es : List Effect} (hmem : .scrollToLatest ∈ es)
    (hes : ∀ e ∈ es, e.scrolls = true → e = .scrollToLatest) :
    es.foldl (apply g) v = { v with anchor := none } := by
  induction es generalizing v with
  | nil => cases hmem
  | cons e es ih =>
    obtain ⟨he, hrest⟩ := List.forall_mem_cons.1 hes
    rw [List.foldl_cons]
    by_cases hlater : .scrollToLatest ∈ es
    · -- whatever this effect does to the anchor, a later one drops it
      rw [ih hlater hrest]
      cases hscrolls : e.scrolls with
      | false => rw [apply_of_not_scrolls hscrolls]
      | true =>
        rw [he hscrolls]
        rfl
    · obtain rfl : .scrollToLatest = e := (List.mem_cons.1 hmem).resolve_right hlater
      have hlocked : ∀ e ∈ es, e.scrolls = true →
          e = .scrollToLatest ∧ ScrollMode.lockedToBottom = .lockedToBottom :=
        fun e he hscrolls => ⟨hrest e he hscrolls, rfl⟩
      exact foldl_apply (fun _ => rfl) hlocked

@[simp] theorem visible_apply (g : Graph) (v : Viewport) (e : Effect) :
    (v.apply g e).visible = v.visible := by
  cases e with
  | scrollToIndex i =>
    rw [apply, scrollToIndex]
    split <;> rfl
  | _ => rfl

@[simp] theorem visible_foldl_apply (g : Graph) (v : Viewport) (es : List Effect) :
    (es.foldl (apply g) v).visible = v.visible := by
  induction es generalizing v with
  | nil => rfl
  | cons e es ih => rw [List.foldl_cons, ih, visible_apply]

/-! ## The message at the bottom -/

theorem bottom?_of_anchor (hv : v.anchor = some k) (hk : g.contains k = true) :
    v.bottom? g = some k := by
  rw [bottom?, hv, Option.filter_some, if_pos hk, Option.some_or]

theorem bottomPosition?_of_anchor (hv : v.anchor = some k) (hk : g.keys[p]? = some k) :
    v.bottomPosition? g = some p := by
  have hloaded : g.contains k = true := Graph.contains_iff_mem_keys.2 (List.mem_of_getElem? hk)
  rw [bottomPosition?, bottom?_of_anchor hv hloaded]
  exact Graph.positionOf?_eq_some_iff.2 hk

theorem bottomPosition?_of_none (hv : v.anchor = none) (hsize : 0 < g.size) :
    v.bottomPosition? g = some (g.size - 1) := by
  have hlt : g.size - 1 < g.keys.length := by
    rw [← Graph.size_eq_length_keys]
    omega
  have hk := List.getElem?_eq_getElem hlt
  rw [bottomPosition?, bottom?, hv, Option.filter_none, Option.none_or,
    Graph.largest?_eq_getElem?_keys, hk]
  exact Graph.positionOf?_eq_some_iff.2 hk

/-! ## The offset -/

/-- A viewport that is anchored to a loaded message is as far from the end as there are newer
ones. -/
theorem offset_of_anchor (hv : v.anchor = some k) (hk : g.contains k = true) :
    v.offset g = g.newer k := by
  obtain ⟨p, hp⟩ := Graph.exists_position hk
  rw [offset, hv, Option.bind_some, Graph.positionOf?_eq_some_iff.2 hp, Graph.newer_eq hp]

theorem offset_of_none (hv : v.anchor = none) : v.offset g = 0 := by
  rw [offset, hv, Option.bind_none]

theorem offset_of_not_contains (hv : v.anchor = some k) (hk : g.contains k = false) :
    v.offset g = 0 := by
  have hnone : g.positionOf? k = none := by
    rw [← Option.not_isSome_iff_eq_none, Graph.positionOf?_isSome_iff,
      ← Graph.contains_iff_mem_keys, hk]
    exact Bool.false_ne_true
  rw [offset, hv, Option.bind_some, hnone]

/-- A viewport with an offset is anchored to a loaded message. -/
theorem exists_anchor (h : v.offset g ≠ 0) : ∃ k, v.anchor = some k ∧ g.contains k = true := by
  cases hv : v.anchor with
  | none => exact absurd (offset_of_none hv) h
  | some k =>
    cases hk : g.contains k with
    | false => exact absurd (offset_of_not_contains hv hk) h
    | true => exact ⟨k, rfl, hk⟩

/-- **A viewport without an offset shows the newest message** at its bottom, and no other does. -/
theorem offset_eq_zero_iff (v : Viewport) (g : Graph) :
    v.offset g = 0 ↔ v.bottom? g = g.largest? := by
  cases hv : v.anchor with
  | none => simp [offset_of_none hv, bottom?, hv]
  | some k =>
    cases hk : g.contains k with
    | false => simp [offset_of_not_contains hv hk, bottom?, hv, Option.filter_some, hk]
    | true =>
      obtain ⟨p, hp⟩ := Graph.exists_position hk
      rw [offset_of_anchor hv hk, bottom?_of_anchor hv hk, Graph.newer_eq_zero_iff hp]
      exact eq_comm

/-- Messages that join the loaded ones bring no viewport nearer to the end. -/
theorem offset_le_of_subset (h : g.keys ⊆ r.keys) (v : Viewport) : v.offset g ≤ v.offset r := by
  by_cases hzero : v.offset g = 0
  · omega
  · obtain ⟨k, hv, hk⟩ := exists_anchor hzero
    have hk' : r.contains k = true :=
      Graph.contains_iff_mem_keys.2 (h (Graph.contains_iff_mem_keys.1 hk))
    rw [offset_of_anchor hv hk, offset_of_anchor hv hk']
    exact Graph.newer_le_of_subset h k

/-- The offset depends on the loaded indices alone. -/
theorem offset_congr (h : r.keys = g.keys) (v : Viewport) : v.offset r = v.offset g := by
  apply Nat.le_antisymm
  · exact offset_le_of_subset (h ▸ List.Subset.refl _) v
  · exact offset_le_of_subset (h ▸ List.Subset.refl _) v

/-- The anchor at a position leaves the messages after that position below the screen. -/
theorem offset_of_anchorAt (hv : v.anchor = anchorAt g p) : v.offset g = g.size - 1 - p := by
  rw [anchorAt] at hv
  split at hv
  · next hend =>
    rw [offset_of_none hv]
    omega
  · next hbefore =>
    have hp : p < g.keys.length := by
      rw [← Graph.size_eq_length_keys]
      omega
    have hk := List.getElem?_eq_getElem hp
    rw [Graph.keyAt?_eq, hk] at hv
    rw [offset_of_anchor hv (Graph.contains_iff_mem_keys.2 (List.getElem_mem hp)),
      Graph.newer_eq hk]

/-- A message that is gone to stands at the top, and the screen reaches down from there. -/
theorem offset_scrollToIndex (h : g.positionOf? k = some p) :
    (v.scrollToIndex g k).offset g = g.size - 1 - p - (v.visible - 1) := by
  rw [scrollToIndex, h]
  have hoffset : ({ v with anchor := anchorAt g (p + (v.visible - 1)) } : Viewport).offset g =
      g.size - 1 - (p + (v.visible - 1)) := offset_of_anchorAt rfl
  exact hoffset.trans (Nat.sub_sub ..).symm

end Viewport

end Scrollback
