import Mathlib.Data.Set.List
import Scrollback.Proofs.Window.Rows
/-!
# Every message is told from its author and its day

Each row is told from the one before it alone: it names its author if the one before is no message of
the same author, and its day if the one before is a message of another day. So going back from any
message, its author is named before any other author or any trace of a deleted message comes up.

## Main definitions

* `Graph.DaysKnown` — the days that have to be compared are kept.
* `Row.Tells` — what a row shows of an entry and of the message before.
* `Row.HeadedBy` — the nearest author that is named at a row or above it.

## Main statements

* `Graph.exists_headedBy` — going back from a message, its author is named first.
* `Graph.annotateOn_attributed` — every message is told from its author and from the day before.
-/

namespace Scrollback

theorem Checked.exists_map_ok_iff {α : Type} {xs : List (Checked α)} :
    (∃ as : List α, as.map .ok = xs) ↔ ∀ x ∈ xs, ∃ a, x = .ok a := by
  rw [← Set.mem_range, Set.range_list_map]
  simp only [Set.mem_ofPred_eq, Set.mem_range, eq_comm]

theorem Node.bind_message?_eq_some_iff {x : Option Node} {m : Message} :
    x.bind message? = some m ↔ x = some (.post m) := by
  rcases x with _ | _ | _ <;> simp [message?]

namespace Graph

variable {g : Graph} {day : Instant → Checked Date} {ctx : RowContext}
variable {rows : List Row} {r s : Row} {m n : Message} {e : Entry} {p : Nat}

/-! ## What a row tells -/

/-- Days are kept for any two messages that follow each other. -/
def DaysKnown (g : Graph) (day : Instant → Checked Date) : Prop :=
  ∀ p m n, g.nodeAt? p = some (.post m) → g.nodeAt? (p + 1) = some (.post n) →
    (∃ d, day m.sentAt = .ok d) ∧ ∃ d, day n.sentAt = .ok d

end Graph

/-- A row tells of an entry. What it shows besides the message follows from the message before. -/
structure Row.Tells (r : Row) (day : Instant → Checked Date) (ctx : RowContext) (e : Entry)
    (before : Option Message) : Prop where
  index : r.index = e.index
  message : r.message = e.node.message?
  unreadMarker : r.unreadMarker = true ↔ ctx.unread = some e.index
  showAuthor : ∀ n, r.message = some n →
    (r.showAuthor = false ↔ ∃ m, before = some m ∧ m.author = n.author)
  dayBreak : ∀ m n, before = some m → r.message = some n →
    ∃ d d', day m.sentAt = .ok d ∧ day n.sentAt = .ok d' ∧
      (r.dayBreak = true ↔ d ≠ d' ∧ r.unreadMarker = false)

namespace Graph

variable {g : Graph} {day : Instant → Checked Date} {ctx : RowContext}
variable {rows : List Row} {r s : Row} {m n : Message} {e : Entry} {p : Nat}

/-- Two messages are compared if the days of both are kept. -/
theorem changesDay_eq_ok_iff {before : Option Node} {changed : Bool}
    (h : before.bind Node.message? = some m) : changesDay day n before = .ok changed ↔
      ∃ d d', day m.sentAt = .ok d ∧ day n.sentAt = .ok d' ∧ changed = (d' != d) := by
  rw [changesDay, h, Checked.bind_eq_ok]
  constructor
  · rintro ⟨d', hd', hrest⟩
    obtain ⟨d, hd, heq⟩ := Checked.bind_eq_ok.1 hrest
    cases heq
    exact ⟨d, d', hd, hd', rfl⟩
  · rintro ⟨d, d', hd, hd', rfl⟩
    exact ⟨d', hd', Checked.bind_eq_ok.2 ⟨d, hd, rfl⟩⟩

/-- The message before a position. -/
def messageBefore? (g : Graph) : Nat → Option Message
  | 0 => none
  | p + 1 => (g.nodeAt? p).bind Node.message?

theorem bind_message?_before (g : Graph) (p : Nat) :
    (if p = 0 then none else g.nodeAt? (p - 1)).bind Node.message? = g.messageBefore? p := by
  cases p <;> rfl

/-- A row tells of its entry. -/
theorem tells_of_rowOf (h : g.rowOf day ctx p e = .ok r) :
    r.Tells day ctx e (g.messageBefore? p) := by
  obtain ⟨changed, hchanged, heq⟩ := Checked.bind_eq_ok.1 h
  cases heq
  rw [← bind_message?_before]
  refine ⟨rfl, rfl, beq_iff_eq, fun n hn => ?_, fun m n hm hn => ?_⟩
  · have hn : e.node.message? = some n := hn
    dsimp only
    rw [hn, Option.any_some, namesAuthor]
    cases (if p = 0 then none else g.nodeAt? (p - 1)).bind Node.message? with
    | none => simp
    | some m =>
      simp only [bne_eq_false_iff_eq, Option.some.injEq, exists_eq_left']
      exact eq_comm
  · have hn : e.node.message? = some n := hn
    rw [hn] at hchanged
    obtain ⟨d, d', hd, hd', rfl⟩ := (changesDay_eq_ok_iff hm).1 hchanged
    refine ⟨d, d', hd, hd', ?_⟩
    simp only [Bool.and_eq_true, bne_iff_ne, Bool.not_eq_true', ne_comm]

/-- It can be told if the days that it has to compare are kept. -/
theorem exists_rowOf_iff : (∃ r, g.rowOf day ctx p e = .ok r) ↔
    ∀ m n, g.messageBefore? p = some m → e.node.message? = some n →
      (∃ d, day m.sentAt = .ok d) ∧ ∃ d, day n.sentAt = .ok d := by
  constructor
  · rintro ⟨r, hr⟩ m n hm hn
    have htells := tells_of_rowOf hr
    obtain ⟨d, d', hd, hd', -⟩ := htells.dayBreak m n hm (htells.message.trans hn)
    exact ⟨⟨d, hd⟩, d', hd'⟩
  · intro hknown
    rw [← bind_message?_before] at hknown
    suffices h : ∃ changed, e.node.message?.elim (.ok false)
        (changesDay day · (if p = 0 then none else g.nodeAt? (p - 1))) = .ok changed by
      obtain ⟨changed, hchanged⟩ := h
      exact ⟨_, Checked.bind_eq_ok.2 ⟨changed, hchanged, rfl⟩⟩
    cases hn : e.node.message? with
    | none => exact ⟨false, rfl⟩
    | some n =>
      cases hm : (if p = 0 then none else g.nodeAt? (p - 1)).bind Node.message? with
      | none =>
        refine ⟨false, ?_⟩
        rw [Option.elim_some, changesDay, hm]
        rfl
      | some m =>
        obtain ⟨⟨d, hd⟩, d', hd'⟩ := hknown m n hm hn
        exact ⟨_, (changesDay_eq_ok_iff hm).2 ⟨d, d', hd, hd', rfl⟩⟩

/-! ## All rows -/

/-- The rows tell of the entries in turn. -/
theorem exists_tells (hrows : rows.map .ok = g.rowsOn day ctx) (hr : rows[p]? = some r) :
    ∃ e, g.entries[p]? = some e ∧ r.Tells day ctx e (g.messageBefore? p) := by
  have hget : (g.rowsOn day ctx)[p]? = some (.ok r) := by
    rw [← hrows, List.getElem?_map, hr, Option.map_some]
  rw [rowsOn, List.getElem?_mapIdx, Option.map_eq_some_iff] at hget
  obtain ⟨e, he, hrow⟩ := hget
  exact ⟨e, he, tells_of_rowOf hrow⟩

/-- There is a row for each entry at some positions. -/
theorem map_rows_slice {a b : Nat}
    (hrows : rows.map .ok = ((g.rowsOn day ctx).take b).drop a) :
    rows.map (fun r => (r.index, r.message)) =
      (g.slice a b).map (fun e => (e.index, e.node.message?)) := by
  refine List.ext_getElem? fun k => ?_
  have hk := congrArg (·[k]?) hrows
  simp only [List.getElem?_map, List.getElem?_drop, List.getElem?_take, rowsOn,
    List.getElem?_mapIdx] at hk
  simp only [List.getElem?_map, slice, List.getElem?_drop, List.getElem?_take]
  split
  · next hlt =>
    rw [if_pos hlt] at hk
    cases he : g.entries[a + k]? with
    | none =>
      rw [he, Option.map_none, Option.map_eq_none_iff] at hk
      rw [hk]
      rfl
    | some e =>
      rw [he, Option.map_some, Option.map_eq_some_iff] at hk
      obtain ⟨r, hr, hrow⟩ := hk
      have htells := tells_of_rowOf hrow.symm
      rw [hr, Option.map_some, Option.map_some, htells.index, htells.message]
  · next hge =>
    rw [if_neg hge, Option.map_eq_none_iff] at hk
    rw [hk]
    rfl

/-- There is a row for each entry. -/
theorem map_rows (hrows : rows.map .ok = g.rowsOn day ctx) :
    rows.map (fun r => (r.index, r.message)) =
      g.entries.map (fun e => (e.index, e.node.message?)) := by
  have hall : rows.map .ok = ((g.rowsOn day ctx).take g.size).drop 0 := by
    rw [List.drop_zero, List.take_of_length_le (Nat.le_of_eq length_rowsOn), hrows]
  rw [map_rows_slice hall, slice_size, List.drop_zero]

/-- The message before a position is that of the row before. -/
theorem messageBefore?_eq (hrows : rows.map .ok = g.rowsOn day ctx) (hr : rows[p]? = some r) :
    g.messageBefore? (p + 1) = r.message := by
  obtain ⟨e, he, htells⟩ := exists_tells hrows hr
  rw [htells.message, messageBefore?, nodeAt?, entryAt?, he]
  rfl

/-- The row of an entry is told if days are kept for it and for the entry before, where both are
messages. -/
theorem exists_rowOf_entry_iff (he : g.entries[p]? = some e) :
    (∃ r, g.rowOf day ctx p e = .ok r) ↔ ∀ q m n, q + 1 = p → g.nodeAt? q = some (.post m) →
      g.nodeAt? (q + 1) = some (.post n) →
        (∃ d, day m.sentAt = .ok d) ∧ ∃ d, day n.sentAt = .ok d := by
  rw [exists_rowOf_iff]
  cases p with
  | zero => exact iff_of_true (fun m n hm => by cases hm) fun q m n hq => by cases hq
  | succ p =>
    have hnode : ∀ n, g.nodeAt? (p + 1) = some (.post n) ↔ e.node.message? = some n := by
      intro n
      rw [← Node.bind_message?_eq_some_iff, nodeAt?, entryAt?, he]
      rfl
    constructor
    · rintro hknown q m n hq hm hn
      cases hq
      exact hknown m n (Node.bind_message?_eq_some_iff.2 hm) ((hnode n).1 hn)
    · intro hdays m n hm hn
      exact hdays p m n rfl (Node.bind_message?_eq_some_iff.1 hm) ((hnode n).2 hn)

/-- At each position, a row that stands there is told under the same condition. -/
theorem told_rowsOn_iff (p : Nat) :
    (∀ x, (g.rowsOn day ctx)[p]? = some x → ∃ r, x = .ok r) ↔
      ∀ q m n, q + 1 = p → g.nodeAt? q = some (.post m) → g.nodeAt? (q + 1) = some (.post n) →
        (∃ d, day m.sentAt = .ok d) ∧ ∃ d, day n.sentAt = .ok d := by
  cases he : g.entries[p]? with
  | none =>
    refine iff_of_true (fun x hx => ?_) fun q m n hq _ hn => ?_
    · rw [rowsOn, List.getElem?_mapIdx, he] at hx
      cases hx
    · subst hq
      rw [nodeAt?, entryAt?, he] at hn
      cases hn
  | some e =>
    have hrow : (g.rowsOn day ctx)[p]? = some (g.rowOf day ctx p e) := by
      rw [rowsOn, List.getElem?_mapIdx, he, Option.map_some]
    simp only [hrow, Option.some.injEq, forall_eq', exists_rowOf_entry_iff he]

/-- All rows can be told if the days of any two messages that follow each other are kept. -/
theorem exists_rows_iff :
    (∃ rows : List Row, rows.map .ok = g.rowsOn day ctx) ↔ g.DaysKnown day := by
  simp only [Checked.exists_map_ok_iff, List.mem_iff_getElem?, forall_exists_index]
  rw [forall_comm]
  simp only [told_rowsOn_iff]
  exact ⟨fun h p m n => h (p + 1) p m n rfl, fun h p q m n _ => h q m n⟩

end Graph

/-! ## Authors and days -/

/-- The nearest row at a row or above it that names an author names this one, and no deleted message
lies between the two. -/
structure Row.HeadedBy (rows : List Row) (i j : Nat) (author : String) : Prop where
  le : j ≤ i
  header : ∃ r m, rows[j]? = some r ∧ r.showAuthor = true ∧ r.message = some m ∧ m.author = author
  between : ∀ k r, j < k → k ≤ i → rows[k]? = some r →
    r.showAuthor = false ∧ r.isDeleted = false

namespace Row

variable {rows : List Row} {r : Row} {m : Message} {i j : Nat} {author : String}

/-- A row that names its author is headed by itself. -/
theorem headedBy_self (hr : rows[i]? = some r) (hm : r.message = some m)
    (hshow : r.showAuthor = true) : HeadedBy rows i i m.author where
  le := Nat.le_refl i
  header := ⟨r, m, hr, hshow, hm, rfl⟩
  between := fun _ _ hik hki => absurd hki (Nat.not_le.2 hik)

/-- The row after a headed one is headed by the same if it is a message that names no author. -/
theorem HeadedBy.succ (h : HeadedBy rows i j author) (hr : rows[i + 1]? = some r)
    (hm : r.message = some m) (hshow : r.showAuthor = false) :
    HeadedBy rows (i + 1) j author where
  le := Nat.le_succ_of_le h.le
  header := h.header
  between := by
    intro k s hjk hki hs
    rcases Nat.lt_or_eq_of_le hki with hlt | rfl
    · exact h.between k s hjk (Nat.le_of_lt_succ hlt) hs
    · obtain rfl := Option.some.inj (hr.symm.trans hs)
      exact ⟨hshow, by rw [isDeleted, hm, Option.isNone_some]⟩

end Row

namespace Graph

variable {g : Graph} {day : Instant → Checked Date} {ctx : RowContext}
variable {rows : List Row} {r s : Row} {m n : Message} {p : Nat}

/-- A message that names no author follows one of the same author. -/
theorem exists_before (hrows : rows.map .ok = g.rowsOn day ctx) (hr : rows[p]? = some r)
    (hm : r.message = some m) (hshow : r.showAuthor = false) :
    ∃ q s n, p = q + 1 ∧ rows[q]? = some s ∧ s.message = some n ∧ n.author = m.author := by
  obtain ⟨e, -, htells⟩ := exists_tells hrows hr
  obtain ⟨n, hn, hauthor⟩ := (htells.showAuthor m hm).1 hshow
  cases p with
  | zero => cases hn
  | succ q =>
    have hq : q < rows.length := Nat.lt_of_succ_lt (List.getElem?_eq_some_iff.1 hr).1
    have hs := List.getElem?_eq_getElem hq
    exact ⟨q, _, n, rfl, hs, (messageBefore?_eq hrows hs).symm.trans hn, hauthor⟩

/-- Going back from a message, its author is named before anything else comes up. -/
theorem exists_headedBy (hrows : rows.map .ok = g.rowsOn day ctx) (hr : rows[p]? = some r)
    (hm : r.message = some m) : ∃ j, Row.HeadedBy rows p j m.author := by
  -- from row to row back to the one that names an author; all on the way are of the same
  induction p using Nat.strong_induction_on generalizing r m with
  | _ p ih =>
    cases hshow : r.showAuthor with
    | true => exact ⟨p, Row.headedBy_self hr hm hshow⟩
    | false =>
      obtain ⟨q, s, n, rfl, hs, hn, hauthor⟩ := exists_before hrows hr hm hshow
      obtain ⟨j, hj⟩ := ih q (Nat.lt_succ_self q) hs hn
      exact ⟨j, hauthor ▸ hj.succ hr hm hshow⟩

/-- A message on another day than the message before it names its day, unless it is the first unread
one. -/
theorem exists_days (hrows : rows.map .ok = g.rowsOn day ctx) (hr : rows[p]? = some r)
    (hs : rows[p + 1]? = some s) (hm : r.message = some m) (hn : s.message = some n) :
    ∃ d d', day m.sentAt = .ok d ∧ day n.sentAt = .ok d' ∧
      (s.dayBreak = true ↔ d ≠ d' ∧ s.unreadMarker = false) := by
  obtain ⟨e, -, htells⟩ := exists_tells hrows hs
  exact htells.dayBreak m n ((messageBefore?_eq hrows hr).trans hm) hn

/-- **Every message is told from its author and from the day before.** With everything mounted, all
rows are drawn just if they can be held and all days are kept that have to be compared, by whatever
clock. Then there is one row for each entry, in turn. Each message has a row at it or above it that
names an author, the nearest such row names its own author, and no deleted message lies between the
two. Of two messages that follow each other and are of different days the newer one names its day or
is announced as the first unread one. A message that names its day is not of the day before it. -/
theorem annotateOn_attributed (g : Graph) (day : Instant → Checked Date) (ctx : RowContext) :
    ((∃ rows, g.annotateOn day ⟨0, g.size⟩ ctx = .ok rows) ↔
      g.size ≤ rowLimit ∧ g.DaysKnown day) ∧
    ∀ rows, g.annotateOn day ⟨0, g.size⟩ ctx = .ok rows →
      rows.map (fun r => (r.index, r.message)) =
        g.entries.map (fun e => (e.index, e.node.message?)) ∧
      (∀ i r m, rows[i]? = some r → r.message = some m →
        ∃ j, Row.HeadedBy rows i j m.author) ∧
      ∀ i r s m n, rows[i]? = some r → rows[i + 1]? = some s → r.message = some m →
        s.message = some n → ∃ d d', day m.sentAt = .ok d ∧ day n.sentAt = .ok d' ∧
          (d ≠ d' → s.dayBreak = true ∨ s.unreadMarker = true) ∧ (s.dayBreak = true → d ≠ d') := by
  refine ⟨?_, fun rows hrows => ?_⟩
  · simp only [annotateOn_all, exists_and_left, exists_rows_iff]
  · obtain ⟨-, hall⟩ := annotateOn_all.1 hrows
    refine ⟨map_rows hall, fun i r m hr hm => exists_headedBy hall hr hm,
      fun i r s m n hr hs hm hn => ?_⟩
    obtain ⟨d, d', hd, hd', hbreak⟩ := exists_days hall hr hs hm hn
    refine ⟨d, d', hd, hd', fun hne => ?_, fun hs => (hbreak.1 hs).1⟩
    cases hmarker : s.unreadMarker with
    | true => exact .inr rfl
    | false => exact .inl (hbreak.2 ⟨hne, hmarker⟩)

/-- On a clock that is set forward between the first two of three messages of one author, the second
is of the next day, and the third follows the trace of a deleted message. The second message names
its day and is told from the author that the first one names, and the third one names its author
anew. -/
theorem annotateOn_attributed_three : ∃ (g : Graph) (day : Instant → Checked Date) (a b c d : Row),
    g.annotateOn day ⟨0, g.size⟩ {} = .ok [a, b, c, d] ∧ c.isDeleted = true ∧
      b.dayBreak = true ∧ (∃ j, Row.HeadedBy [a, b, c, d] 1 j "bus") ∧
      ∃ j, Row.HeadedBy [a, b, c, d] 3 j "bus" := by
  let m : Message := .ofText "bus" "hi" ⟨⟨2024, 3, 31⟩, 1800, 0⟩
  let n : Message := .ofText "bus" "hi" ⟨⟨2024, 3, 31⟩, 81000, 0⟩
  let g : Graph := .ofEntries [⟨⟨5, by decide⟩, .post m⟩, ⟨⟨6, by decide⟩, .post n⟩,
    ⟨⟨8, by decide⟩, .deleted⟩, ⟨⟨9, by decide⟩, .post n⟩]
  let day : Instant → Checked Date := fun t => t.localDate (if t.second < 3600 then 3600 else 7200)
  let a : Row := ⟨⟨5, by decide⟩, some m, true, false, false, false, false⟩
  let b : Row := ⟨⟨6, by decide⟩, some n, false, true, false, false, false⟩
  let c : Row := ⟨⟨8, by decide⟩, none, false, false, false, false, false⟩
  let d : Row := ⟨⟨9, by decide⟩, some n, true, false, false, false, true⟩
  have hrows : g.annotateOn day ⟨0, g.size⟩ {} = .ok [a, b, c, d] := by decide +kernel
  obtain ⟨-, hheaded, -⟩ := (annotateOn_attributed g day {}).2 _ hrows
  exact ⟨g, day, a, b, c, d, hrows, rfl, rfl, hheaded 1 b n rfl rfl, hheaded 3 d n rfl rfl⟩

end Graph

end Scrollback
