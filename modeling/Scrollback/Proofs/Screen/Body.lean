import Mathlib.Algebra.BigOperators.Group.List.Basic
import Scrollback.Launch
import Scrollback.Proofs.Window.Days
import Scrollback.Proofs.Window.Scrolling
import Scrollback.Screen.Frame
/-!
# The list fills its part of a frame

The list of messages is drawn upward from the message at its bottom. How many messages it takes to fill
it is known only once their lines are broken to the width, so it draws all that are mounted above, and
these are as many as it has rows: a message has one line at least, and no line gets lost when it is
broken. So a list with a row left free has come to the oldest loaded message.

It is drawn only if the days can be told that the mounted messages are set apart by.

## Main definitions

* `Session.resize` — a session on a list of so many rows.
* `Row.linesOf`, `Row.wrapped` — the lines that rows come to.
* `Session.Draws` — what a list draws.

## Main statements

* `Session.listRows_of_renderOn` — the list of a frame, and the rows that it has.
* `Session.exists_listRows_iff` — when a list is drawn.
* `Session.list_filled` — a list draws down to the message at its bottom, and is filled as far as the
  loaded messages go.
-/

namespace Scrollback

/-! ## Lines -/

theorem Wrapping.finish_ne_nil (w : Wrapping) : w.finish ≠ [] := by
  dsimp only [finish]
  generalize (if w.join.line.isEmpty then w.done else w.join.line :: w.done) = done
  cases done with
  | nil => exact List.cons_ne_nil _ _
  | cons l done => exact List.reverse_ne_nil_iff.2 (List.cons_ne_nil _ _)

/-- A line is broken into one line at least. -/
theorem Glyph.one_le_length_wrap (limit : Nat) (gs : List Glyph) : 1 ≤ (wrap limit gs).length :=
  List.length_pos_iff.2 (Wrapping.finish_ne_nil _)

/-- Where each element of a list comes to one at least, they come to no fewer than they are. -/
theorem length_le_length_flatMap {α β : Type} {xs : List α} {f : α → List β}
    (h : ∀ x ∈ xs, 1 ≤ (f x).length) : xs.length ≤ (xs.flatMap f).length := by
  rw [List.length_flatMap]
  calc xs.length = (xs.map fun x => (f x).length).length := (List.length_map _).symm
    _ ≤ (xs.map fun x => (f x).length).sum := by
      refine List.length_le_sum_of_one_le _ fun n hn => ?_
      obtain ⟨x, hx, rfl⟩ := List.mem_map.1 hn
      exact h x hx

namespace Row

variable (identity : String) (time : LocalTime) (width : Nat)

/-- **A row has one line at least**, that of its message or of what is left of it. -/
theorem one_le_length_lines (r : Row) :
    1 ≤ (r.lines identity time width).length := by
  rw [lines, List.length_append]
  cases r.message with
  | none => exact Nat.le_add_left _ _
  | some m =>
    rw [List.length_append]
    exact Nat.le_add_left_of_le (Nat.le_add_left _ _)

/-- The lines of rows, one row after the other. -/
def linesOf (rows : List Row) : List Line :=
  rows.flatMap (·.lines identity time width)

/-- The lines of rows, broken to the width. -/
def wrapped (rows : List Row) : List (List Glyph) :=
  (linesOf identity time width rows).flatMap fun l => Glyph.wrap width l.glyphs

theorem length_le_linesOf (rows : List Row) :
    rows.length ≤ (linesOf identity time width rows).length :=
  length_le_length_flatMap fun r _ => one_le_length_lines identity time width r

theorem length_linesOf_le (rows : List Row) :
    (linesOf identity time width rows).length ≤ (wrapped identity time width rows).length :=
  length_le_length_flatMap fun l _ => Glyph.one_le_length_wrap width l.glyphs

end Row

/-! ## What is mounted above a message -/

namespace Graph

variable {g : Graph} {e : Entry} {a b c : Nat}

/-- The entries of a slice down to one of them. -/
theorem filter_slice (he : g.entries[b]? = some e) (hbc : b < c) :
    (g.slice a c).filter (·.index ≤ e.index) = g.slice a (b + 1) := by
  have hfilter : Entry.Sorted ((g.slice a c).filter (·.index ≤ e.index)) :=
    List.Pairwise.filter _ (g.sorted_slice a c)
  refine hfilter.eq_of_mem_iff (g.sorted_slice a (b + 1)) fun x => ?_
  rw [List.mem_filter, decide_eq_true_iff, mem_slice, mem_slice]
  constructor
  · rintro ⟨⟨i, hai, -, hi⟩, hle⟩
    exact ⟨i, hai, Nat.lt_succ_of_le ((g.sorted.index_le_iff hi he).1 hle), hi⟩
  · rintro ⟨i, hai, hib, hi⟩
    exact ⟨⟨i, hai, by omega, hi⟩, (g.sorted.index_le_iff hi he).2 (Nat.le_of_lt_succ hib)⟩

theorem getLast?_slice (he : g.entries[b]? = some e) (hab : a ≤ b) :
    (g.slice a (b + 1)).getLast? = some e := by
  have hb : b < g.size := (List.getElem?_eq_some_iff.1 he).1
  rw [List.getLast?_eq_getElem?, length_slice (Nat.succ_le_of_lt hb), getElem?_slice (by omega),
    ← he]
  congr 1
  omega

/-- The entries from the oldest one down to another leave out none above it. -/
theorem mem_map_slice_of_le {i : MessageIndex} (he : g.entries[b]? = some e) (hi : i ∈ g.keys)
    (hle : i ≤ e.index) : i ∈ (g.slice 0 (b + 1)).map Entry.index := by
  obtain ⟨x, hx, rfl⟩ := mem_keys_iff.1 hi
  obtain ⟨q, hq⟩ := List.mem_iff_getElem?.1 hx
  have hqb := (g.sorted.index_le_iff hq he).1 hle
  exact List.mem_map_of_mem (mem_slice.2 ⟨q, Nat.zero_le q, Nat.lt_succ_of_le hqb, hq⟩)

end Graph

/-- A frame that is checked is drawn as it is. -/
theorem Canvas.eq_of_check {c c' : Canvas} (h : c.check = .ok c') : c' = c := by
  rw [check] at h
  split at h
  · cases h
  · cases h
    rfl

namespace Session

variable {s s' : Session} {time : LocalTime} {width height p : Nat} {m : Mounted}
variable {bottom : MessageIndex} {e : Entry} {rows : List Row}
variable {body : List (List Placed)} {canvas : Canvas}

/-! ## Drawing a list -/

/-- The session on a list of so many rows. -/
def resize (s : Session) (rows : Nat) : Session :=
  s.mapWindow fun w => { w with viewport.height := rows }

/-- What marks the rows of a session. -/
def rowContext (s : Session) : RowContext where
  unread := s.window.boundary?
  target := s.window.target
  identity := some s.identity

/-- A frame draws the list on the rows that it has for it, and leaves the session on so many. -/
theorem listRows_of_renderOn (h : s.renderOn time width height = .ok (s', canvas)) :
    s' = s.resize (Layout.bodyHeight height) ∧
      ∃ body, s'.listRows time width (Layout.bodyHeight height) = .ok body ∧
        body <:+: canvas.rows := by
  obtain ⟨body, hbody, hrest⟩ := Checked.bind_eq_ok.1 h
  obtain ⟨canvas', hcheck, heq⟩ := Checked.bind_eq_ok.1 hrest
  cases heq
  refine ⟨rfl, body, hbody, ?_⟩
  rw [Canvas.eq_of_check hcheck]
  dsimp only
  split
  · exact List.infix_refl body
  · exact ⟨[_, _], [_, _], rfl⟩

theorem visibleRows_eq_ok_iff (hm : s.window.mounted s.graph = .ok m)
    (hbottom : s.window.viewport.bottom? s.graph = some bottom) :
    s.visibleRows time = .ok rows ↔ ∃ all, s.graph.annotateOn time.day m s.rowContext = .ok all ∧
      rows = all.filter (·.index ≤ bottom) := by
  have hrows : s.window.rowsOn s.graph (some s.identity) time.day =
      s.graph.annotateOn time.day m s.rowContext := by
    rw [Window.rowsOn, hm]
    rfl
  rw [visibleRows, hrows, Checked.bind_eq_ok, hbottom]
  simp only [pure, Except.pure, Except.ok.injEq, eq_comm]

/-- The rows of a list are those of the lines that its messages come to, set at the bottom. -/
theorem listRows_eq_ok_iff (hloaded : s.graph.isEmpty = false) (hwidth : width ≠ 0) :
    s.listRows time width height = .ok body ↔ ∃ rows, s.visibleRows time = .ok rows ∧
      body = (settle height (Row.wrapped s.identity time width rows)).map (Glyph.placeAt 0) := by
  have hlist : s.listRows time width height = (s.visibleRows time).map fun rows =>
      (settle height (Row.wrapped s.identity time width rows)).map (Glyph.placeAt 0) := by
    rw [listRows, hloaded, listLines]
    cases s.visibleRows time with
    | error e => rfl
    | ok rows =>
      simp only [bind, Except.bind, if_neg hwidth]
      rfl
  rw [hlist, Checked.map_eq_ok]
  simp only [eq_comm]

/-- **When a list is drawn**: just if the days are kept that the mounted messages have to compare. -/
theorem exists_listRows_iff (hloaded : s.graph.isEmpty = false) (hwidth : width ≠ 0)
    (hm : s.window.mounted s.graph = .ok m) (hle : m.start ≤ m.stop)
    (hlimit : m.stop - m.start ≤ Graph.rowLimit)
    (hbottom : s.window.viewport.bottom? s.graph = some bottom) :
    (∃ body, s.listRows time width height = .ok body) ↔
      s.graph.DaysKnownIn time.day m := by
  have htold : (∃ all, s.graph.annotateOn time.day m s.rowContext = .ok all) ↔
      m.stop - m.start ≤ Graph.rowLimit ∧ s.graph.DaysKnownIn time.day m :=
    Graph.exists_annotateOn_iff hle
  rw [and_iff_right hlimit] at htold
  rw [← htold]
  constructor
  · rintro ⟨body, hbody⟩
    obtain ⟨rows, hrows, -⟩ := (listRows_eq_ok_iff hloaded hwidth).1 hbody
    obtain ⟨all, hall, -⟩ := (visibleRows_eq_ok_iff hm hbottom).1 hrows
    exact ⟨all, hall⟩
  · rintro ⟨all, hall⟩
    exact ⟨_, (listRows_eq_ok_iff hloaded hwidth).2
      ⟨_, (visibleRows_eq_ok_iff hm hbottom).2 ⟨all, hall, rfl⟩, rfl⟩⟩

/-! ## Setting lines at the bottom -/

/-- A list has all its rows. -/
theorem length_settle (height : Nat) (lines : List (List Glyph)) :
    (settle height lines).length = height := by
  rw [settle, List.length_append, List.length_replicate, List.length_take, List.length_drop]
  omega

/-- Lines that are not too many for it are cut off at the top, and the last one stands on the last
row. -/
theorem settle_eq {lines : List (List Glyph)} (h : lines.length ≤ height + scrollLimit) :
    settle height lines =
      List.replicate (height - lines.length) [] ++ lines.drop (lines.length - height) := by
  have hskip : min (lines.length - height) scrollLimit = lines.length - height :=
    Nat.min_eq_left (by omega)
  rw [settle, hskip, List.take_of_length_le]
  rw [List.length_drop]
  omega

/-! ## What a list draws -/

/-- What a list draws on so many columns and rows, of a mounted range and down to the message at its
bottom. -/
structure Draws (s : Session) (time : LocalTime) (width height : Nat) (m : Mounted)
    (bottom : MessageIndex) (rows : List Row) (body : List (List Placed)) : Prop where
  /-- There is a row for each mounted message down to the one at the bottom. -/
  mounted : rows.map (fun r => (r.index, r.message)) =
    ((s.graph.slice m.start m.stop).filter (·.index ≤ bottom)).map fun e => (e.index, e.node.message?)
  /-- The one at the bottom comes last. -/
  last : rows.getLast?.map Row.index = some bottom
  /-- Each row has a line at least. -/
  line : ∀ r ∈ rows, 1 ≤ (r.lines s.identity time width).length
  /-- The lines do not get fewer when they are broken to the width. -/
  broken : (Row.linesOf s.identity time width rows).length ≤
    (Row.wrapped s.identity time width rows).length
  /-- The list has all its rows. -/
  length : body.length = height
  /-- The lines stand at its bottom, and those that do not fit are cut off at the top, as long as no
  more of them have to be passed over than can be. -/
  shown : (Row.wrapped s.identity time width rows).length ≤ height + scrollLimit →
    body = List.replicate (height - (Row.wrapped s.identity time width rows).length) [] ++
      ((Row.wrapped s.identity time width rows).drop
        ((Row.wrapped s.identity time width rows).length - height)).map (Glyph.placeAt 0)
  /-- Lines that leave a row free are those of all loaded messages down to the one at the bottom. -/
  loaded : (Row.wrapped s.identity time width rows).length < height →
    ∀ i ∈ s.graph.keys, i ≤ bottom → i ∈ rows.map Row.index

theorem mounted_resize (s : Session) (height : Nat) : (s.resize height).window.mounted s.graph =
    Mounted.around s.graph.size (s.window.viewport.offset s.graph) (max height 1)
      s.window.policy.overscan := rfl

/-- A range that begins above the oldest loaded message has rows for the whole list. -/
theorem start_eq_zero_of_free (hrows : rows.length = p + 1 - m.start)
    (hsurrounds : m.Surrounds s.graph.size p height s.window.policy.overscan)
    (hfree : (Row.wrapped s.identity time width rows).length < height) : m.start = 0 := by
  have hlines := Row.length_le_linesOf s.identity time width rows
  have hwrapped := Row.length_linesOf_le s.identity time width rows
  have habove := hsurrounds.above
  omega

/-- The rows of a list down to the message at its bottom. -/
theorem draws_of_listRows (hloaded : s.graph.isEmpty = false) (hwidth : width ≠ 0)
    (hm : s.window.mounted s.graph = .ok m)
    (hsurrounds : m.Surrounds s.graph.size p height s.window.policy.overscan)
    (he : s.graph.entries[p]? = some e)
    (hbottom : s.window.viewport.bottom? s.graph = some e.index)
    (hbody : s.listRows time width height = .ok body) :
    ∃ rows, s.visibleRows time = .ok rows ∧ s.Draws time width height m e.index rows body := by
  obtain ⟨rows, hrows, rfl⟩ := (listRows_eq_ok_iff hloaded hwidth).1 hbody
  obtain ⟨all, hall, heq⟩ := (visibleRows_eq_ok_iff hm hbottom).1 hrows
  have hp := hsurrounds.start_le
  have hstop := hsurrounds.lt_stop
  have hentries : rows.map (fun r => (r.index, r.message)) =
      ((s.graph.slice m.start m.stop).filter (·.index ≤ e.index)).map
        fun e => (e.index, e.node.message?) := by
    rw [heq, Graph.map_filter_annotateOn (by omega) hall]
  have hindex : rows.map Row.index = (s.graph.slice m.start (p + 1)).map Entry.index := by
    have hfst := congrArg (List.map Prod.fst) hentries
    rwa [List.map_map, List.map_map, Graph.filter_slice he hstop] at hfst
  refine ⟨rows, hrows, hentries, ?_, fun r _ => Row.one_le_length_lines _ _ _ r,
    Row.length_linesOf_le _ _ _ rows, ?_, fun hfit => ?_, fun hfree i hi hle => ?_⟩
  · rw [← List.getLast?_map, hindex, List.getLast?_map, Graph.getLast?_slice he hp, Option.map_some]
  · rw [List.length_map, length_settle]
  · rw [settle_eq hfit, List.map_append, List.map_replicate]
    rfl
  · have hlength : rows.length = p + 1 - m.start := by
      have hsize := (List.getElem?_eq_some_iff.1 he).1
      have hlength := congrArg List.length hindex
      rwa [List.length_map, List.length_map, Graph.length_slice hsize] at hlength
    rw [hindex, start_eq_zero_of_free hlength hsurrounds hfree]
    exact Graph.mem_map_slice_of_le he hi hle

/-- **The list fills its part of a frame.** Over loaded messages, with an overscan for which no sum
overflows, a list of at least one column and one row has a mounted range and a message at its bottom,
whatever the window is anchored to. It is drawn just if the reader's clock, which may be any, tells the
days of any two messages that follow each other, the newer one mounted. What it draws then are the rows
of the mounted messages down to the one at its bottom, which comes last. Each row has one line at least.
If the lines, broken to the width, leave a row of the list free, no loaded message is missing above the
one at the bottom. -/
theorem list_filled (s : Session) (time : LocalTime) {width height : Nat}
    (hloaded : s.graph.isEmpty = false) (hwidth : 1 ≤ width) (hheight : 1 ≤ height)
    (hsum : s.graph.size + s.window.policy.overscan < Count.bound)
    (hlimit : height + 2 * s.window.policy.overscan ≤ Graph.rowLimit) :
    ∃ m bottom, (s.resize height).window.mounted s.graph = .ok m ∧
      s.window.viewport.bottom? s.graph = some bottom ∧
      ((∃ body, (s.resize height).listRows time width height = .ok body) ↔
        s.graph.DaysKnownIn time.day m) ∧
      ∀ body, (s.resize height).listRows time width height = .ok body →
        ∃ rows, (s.resize height).visibleRows time = .ok rows ∧
          (s.resize height).Draws time width height m bottom rows body := by
  have hsize : s.graph.size ≠ 0 := by
    intro hzero
    rw [Graph.isEmpty, List.isEmpty_eq_false_iff] at hloaded
    exact hloaded (List.length_eq_zero_iff.1 hzero)
  have hoffset := Viewport.offset_lt (Nat.pos_of_ne_zero hsize) s.window.viewport
  have hp : Mounted.bottom s.graph.size (s.window.viewport.offset s.graph) < s.graph.size :=
    Mounted.bottom_lt hsize _
  have he := List.getElem?_eq_getElem hp
  have hbottom := Viewport.bottom?_eq (Nat.pos_of_ne_zero hsize) s.window.viewport
  rw [← Nat.min_eq_left (Nat.le_sub_one_of_lt hoffset), ← Mounted.bottom, Graph.keyAt?,
    Graph.entryAt?, he, Option.map_some] at hbottom
  obtain ⟨m, hm⟩ := Mounted.exists_around hsum (s.window.viewport.offset s.graph) height
  have hsurrounds := Mounted.surrounds_of_around hheight hsize hm
  have hmounted : (s.resize height).window.mounted s.graph = .ok m := by
    rw [mounted_resize, Nat.max_eq_left hheight, hm]
  have hlength : m.stop - m.start ≤ Graph.rowLimit := by
    obtain ⟨n, hn, hle⟩ := hsurrounds.length_le
    obtain ⟨-, rfl⟩ := Count.sub_eq_ok.1 hn
    omega
  have hwidth : width ≠ 0 := by omega
  refine ⟨m, _, hmounted, hbottom, ?_, fun body hbody => ?_⟩
  · exact exists_listRows_iff (s := s.resize height) hloaded hwidth hmounted
      (Mounted.le_of_around hm).1 hlength hbottom
  · exact draws_of_listRows (s := s.resize height) hloaded hwidth hmounted hsurrounds he hbottom
      hbody

/-- The list is anchored to the second newest of four messages, one of them deleted, and shows twelve
rows. The three messages down to the anchor come to fewer lines, and all of them are drawn. -/
theorem list_filled_anchored : ∃ (s : Session) (time : LocalTime) (m : Mounted)
    (bottom : MessageIndex) (rows : List Row) (body : List (List Placed)),
      s.window.viewport.anchor = some bottom ∧ s.graph.largest? ≠ some bottom ∧
      (s.resize 12).listRows time 20 12 = .ok body ∧
      (s.resize 12).Draws time 20 12 m bottom rows body ∧ rows.length = 3 ∧
      ∀ i ∈ s.graph.keys, i ≤ bottom → i ∈ rows.map Row.index := by
  let m : Message := .ofText "bus" "the relay was down for a few minutes" ⟨⟨2024, 7, 1⟩, 43200, 0⟩
  let g : Graph := .ofEntries [⟨⟨3, by decide⟩, .post m⟩, ⟨⟨5, by decide⟩, .deleted⟩,
    ⟨⟨6, by decide⟩, .post m⟩, ⟨⟨9, by decide⟩, .post m⟩]
  let s : Session :=
    { feed := { remote := g, loaded := g }
      window := { viewport := { anchor := some ⟨6, by decide⟩ } }
      opened := ⟨⟨2024, 7, 2⟩, 0, 0⟩ }
  -- the clock is set back in autumn
  let time : LocalTime := .ahead fun t => if t.date.month < 10 then 7200 else 3600
  let a : Row := ⟨⟨3, by decide⟩, some m, true, false, false, false, false⟩
  let b : Row := ⟨⟨5, by decide⟩, none, false, false, false, false, false⟩
  let c : Row := ⟨⟨6, by decide⟩, some m, true, false, false, false, false⟩
  have hvisible : (s.resize 12).visibleRows time = .ok [a, b, c] := by decide +kernel
  have hfree : (Row.wrapped (s.resize 12).identity time 20 [a, b, c]).length < 12 := by
    decide +kernel
  obtain ⟨mounted, bottom, -, hbottom, -, hdraws⟩ :=
    @list_filled s time 20 12 (by decide +kernel) (by decide) (by decide) (by decide +kernel)
      (by decide)
  obtain rfl : (⟨6, by decide⟩ : MessageIndex) = bottom :=
    Option.some.inj ((by decide +kernel : _ = s.window.viewport.bottom? s.graph).trans hbottom)
  have hbody : (s.resize 12).listRows time 20 12 = .ok _ :=
    (listRows_eq_ok_iff (by decide +kernel) (by decide)).2 ⟨_, hvisible, rfl⟩
  obtain ⟨rows, hrows, hdrawn⟩ := hdraws _ hbody
  obtain rfl := Except.ok.inj (hvisible.symm.trans hrows)
  exact ⟨s, time, mounted, _, _, _, rfl, by decide +kernel, hbody, hdrawn, rfl, hdrawn.loaded hfree⟩

/-- Two messages were sent at the last instant for which a date is kept, and the reader's clock is an
hour ahead. A session on this history has both loaded, and its list is not drawn. -/
theorem exists_list_not_drawn : ∃ (remote : Graph) (now : Instant) (s : Session),
    ofHistory {} remote none now = .ok s ∧ s.graph.isEmpty = false ∧
      s.graph.size + s.window.policy.overscan < Count.bound ∧
      6 + 2 * s.window.policy.overscan ≤ Graph.rowLimit ∧
      (s.resize 6).listRows (.ahead fun _ => 3600) 40 6 = .error .localTimeOverflow := by
  let t : Instant := ⟨⟨262142, 12, 31⟩, 86399, 0⟩
  let remote : Graph := .ofEntries [⟨⟨1, by decide⟩, .post (.ofText "zod" "good night" t)⟩,
    ⟨⟨2, by decide⟩, .post (.ofText "zod" "all of you" t)⟩]
  exact ⟨remote, t, _, rfl, by decide +kernel, by decide +kernel, by decide +kernel,
    by decide +kernel⟩

end Session

end Scrollback
