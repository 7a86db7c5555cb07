import Scrollback.Proofs.Graph.Ranked
import Scrollback.Proofs.Window.Mounted
import Scrollback.Window
/-!
# Rows do not depend on what is mounted

All rows are drawn as parts of one list, that of the rows of all loaded messages: a row is told by its
position and the node before it, loaded or mounted or not. So a mounted range is drawn just as it
would be if everything was mounted, as long as so many rows can be held. A window mounts no more than
is loaded, so that its rows can be held if all can.

## Main definitions

* `Graph.rowsOn` — the rows of all positions.

## Main statements

* `Graph.annotateOn_eq_ok_iff` — the rows of a range are those at its positions.
* `Graph.annotate_sublist` — what is mounted does not show in the rows.
* `Window.rowsOn_eq` — a window draws a part of all rows.
-/

namespace Scrollback

/-- A list of computations answers if all of them do. -/
theorem Checked.mapM_id_eq_ok {α : Type} {xs : List (Checked α)} {as : List α} :
    xs.mapM id = .ok as ↔ as.map .ok = xs := by
  induction xs generalizing as with
  | nil => simp [pure, Except.pure, eq_comm]
  | cons x xs ih =>
    rw [List.mapM_cons, Checked.bind_eq_ok]
    constructor
    · rintro ⟨a, rfl, hrest⟩
      obtain ⟨bs, hbs, heq⟩ := Checked.bind_eq_ok.1 hrest
      cases heq
      rw [List.map_cons, ih.1 hbs]
    · intro h
      obtain ⟨a, bs, rfl, rfl, hbs⟩ := List.map_eq_cons_iff.1 h
      exact ⟨a, rfl, Checked.bind_eq_ok.2 ⟨bs, ih.2 hbs, rfl⟩⟩

namespace Graph

variable {g : Graph} {day : Instant → Checked Date} {ctx : RowContext} {mounted : Mounted}
variable {rows : List Row} {p : Nat}

/-! ## The rows of a range -/

/-- The rows of all positions, oldest first, so far as they can be told. -/
def rowsOn (g : Graph) (day : Instant → Checked Date) (ctx : RowContext) : List (Checked Row) :=
  g.entries.mapIdx (g.rowOf day ctx)

@[simp] theorem length_rowsOn : (g.rowsOn day ctx).length = g.size := List.length_mapIdx

theorem rowAt?_eq : g.rowAt? day ctx p = (g.rowsOn day ctx)[p]? := by
  rw [rowsOn, List.getElem?_mapIdx, rowAt?, entryAt?]

/-- The rows of a range are told in turn, as long as so many can be held. -/
theorem annotateOn_eq (h : mounted.start ≤ mounted.stop) : g.annotateOn day mounted ctx =
    if rowLimit < mounted.stop - mounted.start then .error .capacityOverflow
    else (((g.rowsOn day ctx).take mounted.stop).drop mounted.start).mapM id := by
  have hlength : mounted.length = .ok (mounted.stop - mounted.start) := Count.sub_eq_ok.2 ⟨h, rfl⟩
  have hrows : (List.range' mounted.start (min mounted.stop g.size - mounted.start)).filterMap
      (g.rowAt? day ctx) = ((g.rowsOn day ctx).take mounted.stop).drop mounted.start := by
    have hrow : g.rowAt? day ctx = ((g.rowsOn day ctx)[·]?) := funext fun _ => rowAt?_eq
    rw [hrow, RankedGraph.filterMap_range'_getElem?, List.drop_take,
      List.take_eq_take_iff, List.length_drop, length_rowsOn]
    omega
  rw [annotateOn, hlength, hrows]
  by_cases hlimit : rowLimit < mounted.stop - mounted.start
  · rw [if_pos hlimit]
    exact if_pos hlimit
  · rw [if_neg hlimit]
    exact if_neg hlimit

/-- **The rows of a range** are those at its positions. -/
theorem annotateOn_eq_ok_iff (h : mounted.start ≤ mounted.stop) :
    g.annotateOn day mounted ctx = .ok rows ↔ mounted.stop - mounted.start ≤ rowLimit ∧
      rows.map .ok = ((g.rowsOn day ctx).take mounted.stop).drop mounted.start := by
  rw [annotateOn_eq h]
  split
  · next hlimit => exact iff_of_false (by simp) fun hrows => Nat.not_le.2 hlimit hrows.1
  · next hlimit => rw [Checked.mapM_id_eq_ok, and_iff_right (Nat.not_lt.1 hlimit)]

/-- With everything mounted, these are all rows. -/
theorem annotateOn_all : g.annotateOn day ⟨0, g.size⟩ ctx = .ok rows ↔
    g.size ≤ rowLimit ∧ rows.map .ok = g.rowsOn day ctx := by
  rw [annotateOn_eq_ok_iff (Nat.zero_le _), Nat.sub_zero, List.drop_zero,
    List.take_of_length_le (Nat.le_of_eq length_rowsOn)]

/-- **What is mounted does not show in the rows.** For a reader whose clock is always as far ahead, a
range is drawn as just those of all rows that stand at its positions, the same in every part, however
far it runs past the end, as long as so many rows could be held as it has positions. A longer range
faults, even where it holds no more messages. The rows of a range do not even depend on whether all
others can be told. -/
theorem annotate_sublist (g : Graph) (ctx : RowContext) (mounted : Mounted)
    (h : mounted.start ≤ mounted.stop) :
    (∀ rows, g.annotate ⟨0, g.size⟩ ctx = .ok rows → rows.length = g.size ∧
      (mounted.stop - mounted.start ≤ rowLimit → g.annotate mounted ctx =
        .ok ((rows.take (min mounted.stop g.size)).drop mounted.start))) ∧
    (∀ rows, g.annotate mounted ctx = .ok rows ↔ mounted.stop - mounted.start ≤ rowLimit ∧
      rows.map .ok =
        ((g.rowsOn (Instant.localDate ctx.zone) ctx).take mounted.stop).drop mounted.start) ∧
    (rowLimit < mounted.stop - mounted.start →
      g.annotate mounted ctx = .error .capacityOverflow) := by
  refine ⟨fun rows hrows => ?_, fun rows => annotateOn_eq_ok_iff h, fun hlimit => ?_⟩
  · obtain ⟨-, hall⟩ := annotateOn_all.1 hrows
    have hlength : rows.length = g.size := by
      rw [← length_rowsOn, ← hall, List.length_map]
    refine ⟨hlength, fun hlimit => (annotateOn_eq_ok_iff h).2 ⟨hlimit, ?_⟩⟩
    rw [List.map_drop, List.map_take, hall, ← List.take_take,
      List.take_of_length_le (Nat.le_of_eq length_rowsOn)]
  · rw [annotate, annotateOn_eq h, if_pos hlimit]

/-- Two messages of one author are loaded and the trace of a deleted one. A range that leaves out the
first and runs past the end is drawn as the last two of all rows: the second message does not name its
author, though the first one is not mounted. -/
theorem annotate_sublist_past_end : ∃ (g : Graph) (ctx : RowContext) (a b c : Row),
    g.annotate ⟨0, g.size⟩ ctx = .ok [a, b, c] ∧ g.annotate ⟨1, 10⟩ ctx = .ok [b, c] ∧
      a.showAuthor = true ∧ b.showAuthor = false ∧ b.unreadMarker = true ∧ c.message = none := by
  let m : Message := .ofText "bus" "hi" ⟨⟨2024, 7, 1⟩, 43200, 0⟩
  let g : Graph := .ofEntries
    [⟨⟨5, by decide⟩, .post m⟩, ⟨⟨6, by decide⟩, .post m⟩, ⟨⟨8, by decide⟩, .deleted⟩]
  let ctx : RowContext := { unread := some ⟨6, by decide⟩ }
  let a : Row := ⟨⟨5, by decide⟩, some m, true, false, false, false, false⟩
  let b : Row := ⟨⟨6, by decide⟩, some m, false, false, true, false, false⟩
  let c : Row := ⟨⟨8, by decide⟩, none, false, false, false, false, true⟩
  have hall : g.annotate ⟨0, g.size⟩ ctx = .ok [a, b, c] := by decide +kernel
  have hpart := ((annotate_sublist g ctx ⟨1, 10⟩ (by decide)).1 _ hall).2 (by decide)
  exact ⟨g, ctx, a, b, c, hall, hpart, rfl, rfl, rfl, rfl⟩

/-- One row stands for the trace of a deleted message. A range that ends at the largest count is not
drawn as this row: it faults. -/
theorem exists_annotate_overflow : ∃ (g : Graph) (ctx : RowContext) (mounted : Mounted) (r : Row),
    mounted.start ≤ mounted.stop ∧ mounted.stop < Count.bound ∧
      g.annotate ⟨0, g.size⟩ ctx = .ok [r] ∧
      ([r].take (min mounted.stop g.size)).drop mounted.start = [r] ∧
      g.annotate mounted ctx = .error .capacityOverflow := by
  let g : Graph := .ofEntries [⟨⟨1, by decide⟩, .deleted⟩]
  let r : Row := ⟨⟨1, by decide⟩, none, false, false, false, false, true⟩
  refine ⟨g, {}, ⟨0, Count.bound - 1⟩, r, Nat.zero_le _, by decide, by decide +kernel,
    by decide +kernel, ?_⟩
  rw [annotate, annotateOn_eq (Nat.zero_le _), if_pos (by decide)]

end Graph

/-! ## The rows of a window -/

/-- **A window draws a part of all rows.** If all rows can be drawn, those that it mounts can. -/
theorem Window.rowsOn_eq {w : Window} {g : Graph} {identity : Option String}
    {day : Instant → Checked Date} {rows : List Row} {m : Mounted} (hm : w.mounted g = .ok m)
    (hrows : g.annotateOn day ⟨0, g.size⟩
      { unread := w.boundary?, target := w.target, identity } = .ok rows) :
    w.rowsOn g identity day = .ok ((rows.take m.stop).drop m.start) := by
  obtain ⟨hle, hstop⟩ := Mounted.le_of_around hm
  obtain ⟨hlimit, hall⟩ := Graph.annotateOn_all.1 hrows
  refine Checked.bind_eq_ok.2 ⟨m, hm, (Graph.annotateOn_eq_ok_iff hle).2 ⟨by omega, ?_⟩⟩
  rw [List.map_drop, List.map_take, hall]

end Scrollback
