import Scrollback.Graph
/-!
# Graphs with a table of ranks

The nodes of a graph are looked up by index. To find an index by its position, and its position
again, a ranked graph keeps a table of the indices beside them. A new index goes to the end of the
table if it is the newest, and otherwise to the place found by halving.

## Main definitions

* `partitionPoint` — where a predicate stops holding, by halving.
* `RankedGraph` — nodes by index, and the table of indices.
* `RankedGraph.insert`, `RankedGraph.extend`, `RankedGraph.acknowledge`, `RankedGraph.delete` —
  changing it.
* `RankedGraph.keyAt?`, `RankedGraph.positionOf?`, `RankedGraph.keysIn` — looking up by rank.
-/

namespace Scrollback

/-- The first of the positions from `lo` up to `hi` at which `p` fails, found by halving. Where `p`
fails it has to fail ever after. -/
def partitionPoint (p : Nat → Bool) (lo hi : Nat) : Nat :=
  if lo < hi then
    let mid := (lo + hi) / 2
    if p mid then partitionPoint p (mid + 1) hi else partitionPoint p lo mid
  else lo
termination_by hi - lo

theorem partitionPoint_le {p : Nat → Bool} {lo hi : Nat} (h : lo ≤ hi) :
    partitionPoint p lo hi ≤ hi := by
  fun_induction partitionPoint p lo hi with
  | case1 lo hi hlt mid hp ih => exact ih (by omega)
  | case2 lo hi hlt mid hp ih => exact Nat.le_trans (ih (by omega)) (by omega)
  | case3 lo hi hge => exact h

/-- A graph with a table of its indices. -/
structure RankedGraph where
  /-- The nodes, by index. -/
  nodes : Graph := Graph.empty
  /-- The indices, oldest first. -/
  keys : Array MessageIndex := #[]

namespace RankedGraph

/-- The ranked graph with nothing in it. -/
def empty : RankedGraph := {}

/-! ## Looking up -/

/-- How many entries there are. -/
def size (g : RankedGraph) : Nat := g.keys.size

/-- Nothing is loaded. -/
def isEmpty (g : RankedGraph) : Bool := g.size == 0

/-- The node at an index. -/
def get? (g : RankedGraph) (i : MessageIndex) : Option Node := g.nodes.get? i

/-- The index is loaded. -/
def contains (g : RankedGraph) (i : MessageIndex) : Bool := (g.get? i).isSome

/-- The message at an index, unless it was deleted. -/
def post? (g : RankedGraph) (i : MessageIndex) : Option Message := (g.get? i).bind Node.message?

/-- The index at a position. -/
def keyAt? (g : RankedGraph) (p : Nat) : Option MessageIndex := g.keys[p]?

/-- The node at a position. -/
def nodeAt? (g : RankedGraph) (p : Nat) : Option Node := (g.keyAt? p).bind g.get?

/-- How many indices of a table lie before a given one. -/
def rankIn (keys : Array MessageIndex) (i : MessageIndex) : Nat :=
  partitionPoint (fun p => keys[p]?.any (· < i)) 0 keys.size

theorem rankIn_le (keys : Array MessageIndex) (i : MessageIndex) : rankIn keys i ≤ keys.size :=
  partitionPoint_le (Nat.zero_le _)

/-- The position of an index. -/
def positionOf? (g : RankedGraph) (i : MessageIndex) : Option Nat :=
  if g.keyAt? (rankIn g.keys i) = some i then some (rankIn g.keys i) else none

/-- The newest loaded index. -/
def largest? (g : RankedGraph) : Option MessageIndex :=
  match g.size with
  | 0 => none
  | last + 1 => g.keyAt? last

/-- The oldest loaded index. -/
def smallest? (g : RankedGraph) : Option MessageIndex := g.keyAt? 0

/-- The indices at positions `start` to `stop`, the latter excluded. Positions past the end have
none. -/
def keysIn (g : RankedGraph) (start stop : Nat) : List MessageIndex :=
  let stop := min stop g.size
  let start := min start stop
  (List.range' start (stop - start)).filterMap g.keyAt?

/-- The entries, oldest first. -/
def toList (g : RankedGraph) : List Entry := g.nodes.entries

/-! ## Changing -/

/-- A table with an index that it does not hold put at its place. -/
def place (keys : Array MessageIndex) (i : MessageIndex) : Array MessageIndex :=
  match keys.back? with
  | none => keys.push i
  | some last =>
    if last < i then keys.push i
    else keys.insertIdx (rankIn keys i) i (rankIn_le keys i)

/-- Inserts a node at its index, in place of the one that was there; tells whether the index is
new. -/
def insert (g : RankedGraph) (i : MessageIndex) (n : Node) : RankedGraph × Bool :=
  let isNew := !g.contains i
  let ⟨nodes, keys⟩ := g
  (⟨nodes.insert i n, if isNew then place keys i else keys⟩, isNew)

/-- Merges a page of entries and counts the indices that were new. -/
def extend (g : RankedGraph) (page : List Entry) : RankedGraph × Nat :=
  page.foldl (fun (g, added) e =>
    let (g, isNew) := g.insert e.index e.node
    (g, if isNew then added + 1 else added)) (g, 0)

/-- Clears the pending mark of a post; tells whether there was one. -/
def acknowledge (g : RankedGraph) (i : MessageIndex) : RankedGraph × Bool :=
  if g.nodes.isPending i then ({ g with nodes := g.nodes.acknowledge i }, true) else (g, false)

/-- Replaces a post by the trace of a deleted one; tells whether there was one. -/
def delete (g : RankedGraph) (i : MessageIndex) : RankedGraph × Bool :=
  if g.nodes.isPost i then ({ g with nodes := g.nodes.delete i }, true) else (g, false)

end RankedGraph

end Scrollback
