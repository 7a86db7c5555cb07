import Scrollback.Graph.Ranked
/-!
# The unread boundary

A reader who has `n` unread messages sees them from the oldest one that is still there. The
boundary is looked for among the `n` newest loaded places, from the oldest of them on, and skips
the traces of deleted messages.

## Main definitions

* `Graph.unreadBoundary?` — the boundary among the entries of a graph.
* `RankedGraph.unreadBoundary?` — the boundary by its position, counting down the places to try.
-/

namespace Scrollback

/-- The oldest unread message that is still a post. There is none when nothing is unread, when
the unread messages are not all loaded, or when all of them were deleted. -/
def Graph.unreadBoundary? (g : Graph) (unread : Nat) : Option MessageIndex :=
  if unread = 0 ∨ g.size < unread then none
  else ((g.entries.drop (g.size - unread)).find? (!·.node.isDeleted)).map Entry.index

namespace RankedGraph

/-- The oldest post among the newest places, so many of which are left to try. -/
def oldestPost? (g : RankedGraph) : Nat → Option MessageIndex
  | 0 => none
  | left + 1 =>
    match g.keyAt? (g.size - (left + 1)) with
    | none => none
    | some i => if (g.get? i).any (!·.isDeleted) then some i else g.oldestPost? left

/-- The oldest unread message that is still a post, found by its position. -/
def unreadBoundary? (g : RankedGraph) (unread : Nat) : Option MessageIndex :=
  if unread = 0 ∨ g.size < unread then none else g.oldestPost? unread

end RankedGraph

end Scrollback
