import Scrollback.Proofs.Window.Attribution
/-!
# Days that have to be kept

A row compares its day with that of the message before it. So the rows of a mounted range can be told
just if days are kept for every message of the range that follows another message, and for that other
one, which may lie above the range.

## Main definitions

* `Graph.DaysKnownIn` — the days that a mounted range has to compare are kept.

## Main statements

* `Graph.exists_annotateOn_iff` — when the rows of a range are told.
* `Graph.map_filter_annotateOn` — the rows of a range down to an index.
-/

namespace Scrollback.Graph

variable {g : Graph} {day : Instant → Checked Date} {ctx : RowContext} {mounted : Mounted}
variable {rows : List Row}

/-- Days are kept for any two messages that follow each other, the newer one in a mounted range. -/
def DaysKnownIn (g : Graph) (day : Instant → Checked Date) (mounted : Mounted) : Prop :=
  ∀ p m n, p + 1 ∈ mounted → g.nodeAt? p = some (.post m) → g.nodeAt? (p + 1) = some (.post n) →
    (∃ d, day m.sentAt = .ok d) ∧ ∃ d, day n.sentAt = .ok d

/-- **The rows of a range are told** just if so many can be held and the days that it has to compare are
kept. -/
theorem exists_annotateOn_iff (h : mounted.start ≤ mounted.stop) :
    (∃ rows, g.annotateOn day mounted ctx = .ok rows) ↔
      mounted.stop - mounted.start ≤ rowLimit ∧ g.DaysKnownIn day mounted := by
  simp only [annotateOn_eq_ok_iff h, exists_and_left, Checked.exists_map_ok_iff, mem_drop_take_iff,
    forall_exists_index, and_imp]
  rw [forall_comm]
  refine and_congr_right fun _ => ⟨fun hall p m n hp => ?_, fun hdays p x hle hlt hx => ?_⟩
  · exact (told_rowsOn_iff (p + 1)).1 (fun x hx => hall (p + 1) x hp.1 hp.2 hx) p m n rfl
  · refine (told_rowsOn_iff p).2 (fun q m n hq => ?_) x hx
    subst hq
    exact hdays q m n ⟨hle, hlt⟩

/-- **The rows of a range down to an index** are those of its entries there, one for each. -/
theorem map_filter_annotateOn (h : mounted.start ≤ mounted.stop)
    (hrows : g.annotateOn day mounted ctx = .ok rows) (k : MessageIndex) :
    (rows.filter (·.index ≤ k)).map (fun r => (r.index, r.message)) =
      ((g.slice mounted.start mounted.stop).filter (·.index ≤ k)).map
        fun e => (e.index, e.node.message?) := by
  have hmap := map_rows_slice ((annotateOn_eq_ok_iff h).1 hrows).2
  have hfilter := congrArg (List.filter fun x => decide (x.1 ≤ k)) hmap
  rw [List.filter_map, List.filter_map] at hfilter
  exact hfilter

end Scrollback.Graph
