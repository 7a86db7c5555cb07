import Scrollback.Unread
/-!
# Looking up indices

An index has a position and a node where it is loaded, and nowhere else. The unread boundary is
looked for among the loaded entries, so it has a position as well.

## Main statements

* `Graph.contains_iff_mem_keys`, `Graph.positionOf?_isSome_iff` — both lookups find what is loaded.
* `Graph.unreadBoundary?_mem_keys` — the unread boundary is loaded.
-/

namespace Scrollback.Graph

variable {g : Graph} {i : MessageIndex}

theorem mem_keys_iff : i ∈ g.keys ↔ ∃ e ∈ g.entries, e.index = i := List.mem_map

theorem size_eq_length_keys (g : Graph) : g.size = g.keys.length := by
  rw [size, keys, List.length_map]

/-- An index has a node where it is loaded. -/
theorem contains_iff_mem_keys : g.contains i = true ↔ i ∈ g.keys := by
  rw [contains, get?, Option.isSome_map, List.find?_isSome, mem_keys_iff]
  simp only [decide_eq_true_eq]

/-- An index has a position where it is loaded. -/
theorem positionOf?_isSome_iff : (g.positionOf? i).isSome = true ↔ i ∈ g.keys := by
  rw [positionOf?, List.findIdx?_isSome, List.any_eq_true, mem_keys_iff]
  simp only [decide_eq_true_eq]

/-- The unread boundary is loaded. -/
theorem unreadBoundary?_mem_keys {unread : Nat} (h : g.unreadBoundary? unread = some i) :
    i ∈ g.keys := by
  rw [unreadBoundary?] at h
  split at h
  · cases h
  · obtain ⟨e, he, rfl⟩ := Option.map_eq_some_iff.1 h
    exact mem_keys_iff.2 ⟨e, List.mem_of_mem_drop (List.mem_of_find?_eq_some he), rfl⟩

end Scrollback.Graph
