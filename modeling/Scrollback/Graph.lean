import Scrollback.Message.Basic
/-!
# The message graph

The loaded part of a channel: nodes in index order, each index at most once. A position is the
rank of an index, counted from the oldest loaded message.

## Main definitions

* `Graph` — the sorted collection.
* `Graph.get?`, `Graph.keyAt?`, `Graph.positionOf?` — looking up by index and by rank.
* `Graph.insert`, `Graph.extend`, `Graph.acknowledge`, `Graph.delete` — changing it.
* `Graph.rank` — how many indices lie before a given one, loaded or not.

## Main statements

* `Graph.mem_insert` — an insertion replaces the node of its index and keeps all others.
* `Graph.keys_acknowledge`, `Graph.keys_delete` — neither changes which indices are held.
-/

namespace Scrollback

/-- A node at its place in the channel. -/
@[ext]
structure Entry where
  /-- The place. -/
  index : MessageIndex
  /-- What it holds. -/
  node : Node
deriving DecidableEq, Repr

/-- Entries in index order, each index once. -/
def Entry.Sorted (es : List Entry) : Prop :=
  es.Pairwise fun a b => a.index < b.index

/-- A collection of entries in index order. -/
@[ext]
structure Graph where
  /-- The entries, oldest first. -/
  entries : List Entry
  /-- They stand in index order. -/
  sorted : Entry.Sorted entries
deriving DecidableEq

namespace Graph

/-- The collection with nothing in it. -/
def empty : Graph := ⟨[], List.Pairwise.nil⟩

instance : Inhabited Graph := ⟨empty⟩

/-! ## Looking up -/

/-- How many entries there are. -/
def size (g : Graph) : Nat := g.entries.length

/-- Nothing is loaded. -/
def isEmpty (g : Graph) : Bool := g.entries.isEmpty

/-- The indices, oldest first. -/
def keys (g : Graph) : List MessageIndex := g.entries.map Entry.index

/-- The node at an index. -/
def get? (g : Graph) (i : MessageIndex) : Option Node :=
  (g.entries.find? (·.index = i)).map Entry.node

/-- The index is loaded. -/
def contains (g : Graph) (i : MessageIndex) : Bool := (g.get? i).isSome

/-- The message at an index, unless it was deleted. -/
def post? (g : Graph) (i : MessageIndex) : Option Message := (g.get? i).bind Node.message?

/-- The entry at a position. -/
def entryAt? (g : Graph) (p : Nat) : Option Entry := g.entries[p]?

/-- The index at a position. -/
def keyAt? (g : Graph) (p : Nat) : Option MessageIndex := (g.entryAt? p).map Entry.index

/-- The node at a position. -/
def nodeAt? (g : Graph) (p : Nat) : Option Node := (g.entryAt? p).map Entry.node

/-- The position of an index. -/
def positionOf? (g : Graph) (i : MessageIndex) : Option Nat :=
  g.entries.findIdx? (·.index = i)

/-- The newest loaded index. -/
def largest? (g : Graph) : Option MessageIndex := g.entries.getLast?.map Entry.index

/-- The oldest loaded index. -/
def smallest? (g : Graph) : Option MessageIndex := g.entries.head?.map Entry.index

/-- How many entries lie before an index. -/
def rank (g : Graph) (i : MessageIndex) : Nat :=
  (g.entries.takeWhile (·.index < i)).length

/-- The entries at positions `start` to `stop`, the latter excluded. -/
def slice (g : Graph) (start stop : Nat) : List Entry :=
  (g.entries.take stop).drop start

/-- The indices at positions `start` to `stop`, the latter excluded. -/
def keysIn (g : Graph) (start stop : Nat) : List MessageIndex :=
  (g.slice start stop).map Entry.index

/-- The post at this index waits for its acknowledgement. -/
def isPending (g : Graph) (i : MessageIndex) : Bool :=
  (g.get? i).any Node.isPending

/-- There is a post at this index. -/
def isPost (g : Graph) (i : MessageIndex) : Bool := (g.post? i).isSome

/-! ## Inserting -/

/-- Puts an entry at its place among entries in order; an equal index is replaced. -/
def place (e : Entry) : List Entry → List Entry
  | [] => [e]
  | x :: xs =>
    if e.index < x.index then e :: x :: xs
    else if e.index = x.index then e :: xs
    else x :: place e xs

/-- Placing an entry adds it and takes away only what had its index. -/
theorem mem_place {e a : Entry} {es : List Entry} (hs : Entry.Sorted es) :
    a ∈ place e es ↔ a = e ∨ (a ∈ es ∧ a.index ≠ e.index) := by
  induction es with
  | nil => simp [place]
  | cons x xs ih =>
    have hx := List.pairwise_cons.1 hs
    unfold place
    split
    · next h =>
      have hne : ∀ b ∈ x :: xs, b.index ≠ e.index := by
        intro b hb
        rcases List.mem_cons.1 hb with rfl | hb
        · exact (MessageIndex.ne_of_lt h).symm
        · exact (MessageIndex.ne_of_lt (MessageIndex.lt_trans h (hx.1 b hb))).symm
      simp only [List.mem_cons]
      constructor
      · rintro (rfl | hb)
        · exact Or.inl rfl
        · exact Or.inr ⟨hb, hne a (List.mem_cons.2 hb)⟩
      · rintro (rfl | ⟨hb, _⟩)
        · exact Or.inl rfl
        · exact Or.inr hb
    · split
      · next h =>
        have hne : ∀ b ∈ xs, b.index ≠ e.index := fun b hb =>
          h ▸ (MessageIndex.ne_of_lt (hx.1 b hb)).symm
        simp only [List.mem_cons]
        constructor
        · rintro (rfl | hb)
          · exact Or.inl rfl
          · exact Or.inr ⟨Or.inr hb, hne a hb⟩
        · rintro (rfl | ⟨rfl | hb, hk⟩)
          · exact Or.inl rfl
          · exact absurd h.symm hk
          · exact Or.inr hb
      · next h =>
        simp only [List.mem_cons, ih hx.2]
        constructor
        · rintro (rfl | rfl | ⟨hb, hk⟩)
          · exact Or.inr ⟨Or.inl rfl, fun c => h c.symm⟩
          · exact Or.inl rfl
          · exact Or.inr ⟨Or.inr hb, hk⟩
        · rintro (rfl | ⟨rfl | hb, hk⟩)
          · exact Or.inr (Or.inl rfl)
          · exact Or.inl rfl
          · exact Or.inr (Or.inr ⟨hb, hk⟩)

/-- Placing an entry keeps the order. -/
theorem sorted_place {e : Entry} {es : List Entry} (hs : Entry.Sorted es) :
    Entry.Sorted (place e es) := by
  induction es with
  | nil => exact List.pairwise_singleton _ _
  | cons x xs ih =>
    have hx := List.pairwise_cons.1 hs
    unfold place
    split
    · next h =>
      refine List.pairwise_cons.2 ⟨fun b hb => ?_, hs⟩
      rcases List.mem_cons.1 hb with rfl | hb
      · exact h
      · exact MessageIndex.lt_trans h (hx.1 b hb)
    · split
      · next h => exact List.pairwise_cons.2 ⟨fun b hb => h ▸ hx.1 b hb, hx.2⟩
      · next hlt hne =>
        refine List.pairwise_cons.2 ⟨fun b hb => ?_, ih hx.2⟩
        rcases (mem_place hx.2).1 hb with rfl | ⟨hb, _⟩
        · exact MessageIndex.lt_of_not_lt_of_ne hlt hne
        · exact hx.1 b hb

/-- Inserts a node at its index, in place of the one that was there. -/
def insert (g : Graph) (i : MessageIndex) (n : Node) : Graph :=
  ⟨place ⟨i, n⟩ g.entries, sorted_place g.sorted⟩

/-- Merges a page of entries and counts the indices that were new. -/
def extend (g : Graph) (page : List Entry) : Graph × Nat :=
  page.foldl (fun (g, added) e =>
    (g.insert e.index e.node, if g.contains e.index then added else added + 1)) (g, 0)

/-- The graph that holds the given entries; of two with one index, the later. -/
def ofEntries (es : List Entry) : Graph := (empty.extend es).1

/-- An insertion adds its entry and takes away only what had its index. -/
theorem mem_insert {g : Graph} {i : MessageIndex} {n : Node} {a : Entry} :
    a ∈ (g.insert i n).entries ↔ a = ⟨i, n⟩ ∨ (a ∈ g.entries ∧ a.index ≠ i) :=
  mem_place g.sorted

/-! ## Changing a node in its place -/

/-- Changes the node at an index. -/
def modify (g : Graph) (i : MessageIndex) (f : Node → Node) : Graph where
  entries := g.entries.map fun e => if e.index = i then { e with node := f e.node } else e
  sorted := by
    refine List.pairwise_map.2 (List.Pairwise.imp ?_ g.sorted)
    intro a b h
    split <;> split <;> exact h

/-- A change in place keeps the indices. -/
theorem keys_modify (g : Graph) (i : MessageIndex) (f : Node → Node) :
    (g.modify i f).keys = g.keys := by
  simp only [keys, modify, List.map_map]
  congr 1
  funext e
  simp only [Function.comp_apply]
  split <;> rfl

/-- Clears the pending mark of a post. -/
def acknowledge (g : Graph) (i : MessageIndex) : Graph := g.modify i Node.acknowledged

/-- Replaces a post by the trace of a deleted one. -/
def delete (g : Graph) (i : MessageIndex) : Graph := g.modify i fun _ => .deleted

/-- An acknowledgement keeps the indices. -/
theorem keys_acknowledge (g : Graph) (i : MessageIndex) : (g.acknowledge i).keys = g.keys :=
  keys_modify g i _

/-- A deletion keeps the indices. -/
theorem keys_delete (g : Graph) (i : MessageIndex) : (g.delete i).keys = g.keys :=
  keys_modify g i _

end Graph

end Scrollback
