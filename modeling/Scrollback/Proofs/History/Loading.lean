import Scrollback.Proofs.History
/-!
# Loading a history

A file holds the entries of a history in any order. They are collected one by one until an index comes
up that was there before. So which history is loaded does not depend on the order of the entries, and
a file is refused just if an index stands in it twice. Which index the refusal names does depend on
the order: it is that of the first entry that repeats one.

## Main definitions

* `History.Holds` — a file's bytes are the text of a list of entries.
* `History.FirstRepeated` — the index of the first entry that repeats one.

## Main statements

* `History.exists_collect_iff`, `History.collect_eq_error_iff` — when entries are collected, and what
  stops it.
* `History.ofFile_ordered` — what is loaded from a file, and when.
-/

namespace Scrollback

namespace Graph

variable {g r : Graph} {i : MessageIndex}

/-- A new index joins the others. -/
theorem perm_keys_insert (h : i ∉ g.keys) (n : Node) : (g.insert i n).keys.Perm (i :: g.keys) := by
  have hnew : g.contains i = false := eq_false_of_ne_true fun hk => h (contains_iff_mem_keys.1 hk)
  exact (perm_insert hnew n).map Entry.index

/-- The order is all that tells graphs of the same entries apart, and it is fixed. -/
theorem eq_of_perm (h : g.entries.Perm r.entries) : g = r :=
  Graph.ext (g.sorted.eq_of_mem_iff r.sorted fun _ => h.mem_iff)

end Graph

namespace History

variable {g g' : Graph} {es : List (MessageIndex × Node)} {i : MessageIndex} {bytes : ByteArray}

/-- The bytes are text that holds these entries. -/
def Holds (bytes : ByteArray) (es : List (MessageIndex × Node)) : Prop :=
  ∃ text, String.fromUTF8? bytes = some text ∧ entries? text = some es

/-- The index is that of the first entry that repeats one: the entries before have indices of their
own, and it is one of these. -/
def FirstRepeated (es : List (MessageIndex × Node)) (i : MessageIndex) : Prop :=
  ∃ before n after, es = before ++ (i, n) :: after ∧ (before.map Prod.fst).Nodup ∧
    i ∈ before.map Prod.fst

/-! ## Collecting entries -/

theorem collect_of_mem (h : i ∈ g.keys) (n : Node) :
    collect g ((i, n) :: es) = .error (.duplicate i) :=
  if_pos (Graph.contains_iff_mem_keys.2 h)

theorem collect_of_notMem (h : i ∉ g.keys) (n : Node) :
    collect g ((i, n) :: es) = collect (g.insert i n) es :=
  if_neg fun hk => h (Graph.contains_iff_mem_keys.1 hk)

/-- Indices are new and each of its own just if this holds of the first and, once that is there, of the
others. -/
theorem nodup_append_cons_iff {is : List MessageIndex} (n : Node) :
    (g.keys ++ i :: is).Nodup ↔ i ∉ g.keys ∧ ((g.insert i n).keys ++ is).Nodup := by
  rw [List.perm_middle.nodup_iff, List.nodup_cons]
  constructor
  · rintro ⟨hnew, hrest⟩
    have hkeys : i ∉ g.keys := fun h => hnew (List.mem_append_left _ h)
    refine ⟨hkeys, ((Graph.perm_keys_insert hkeys n).append_right is).nodup_iff.2 ?_⟩
    exact List.nodup_cons.2 ⟨hnew, hrest⟩
  · rintro ⟨hkeys, hrest⟩
    exact List.nodup_cons.1 (((Graph.perm_keys_insert hkeys n).append_right is).nodup_iff.1 hrest)

/-- **Entries are collected** just if their indices are new and each of its own. -/
theorem exists_collect_iff :
    (∃ g', collect g es = .ok g') ↔ (g.keys ++ es.map Prod.fst).Nodup := by
  induction es generalizing g with
  | nil => exact iff_of_true ⟨g, rfl⟩ (by simpa using g.keys_nodup)
  | cons e es ih =>
    obtain ⟨i, n⟩ := e
    rw [List.map_cons, nodup_append_cons_iff n, ← ih]
    by_cases hi : i ∈ g.keys
    · rw [collect_of_mem hi]
      exact iff_of_false (by simp) fun h => h.1 hi
    · rw [collect_of_notMem hi, and_iff_right hi]

/-- **What stops the collecting** is the first entry whose index is there already. -/
theorem collect_eq_error_iff {e : HistoryError} : collect g es = .error e ↔
    ∃ i before n after, e = .duplicate i ∧ es = before ++ (i, n) :: after ∧
      (g.keys ++ before.map Prod.fst).Nodup ∧ i ∈ g.keys ++ before.map Prod.fst := by
  induction es generalizing g with
  | nil => simp [collect]
  | cons d es ih =>
    obtain ⟨j, m⟩ := d
    by_cases hj : j ∈ g.keys
    · rw [collect_of_mem hj]
      constructor
      · intro h
        cases h
        exact ⟨j, [], m, es, rfl, rfl, by simpa using g.keys_nodup, List.mem_append_left _ hj⟩
      · rintro ⟨i, before, n, after, rfl, hes, hnodup, -⟩
        cases before with
        | nil =>
          cases hes
          rfl
        | cons b before =>
          -- a repeated entry cannot come before the first
          cases hes
          rw [List.map_cons, nodup_append_cons_iff m] at hnodup
          exact absurd hj hnodup.1
    · rw [collect_of_notMem hj, ih]
      have hkeys : ∀ i (before : List (MessageIndex × Node)),
          i ∈ (g.insert j m).keys ++ before.map Prod.fst ↔
            i ∈ g.keys ++ ((j, m) :: before).map Prod.fst := by
        intro i before
        rw [((Graph.perm_keys_insert hj m).append_right _).mem_iff, List.map_cons,
          List.perm_middle.mem_iff]
        rfl
      constructor
      · rintro ⟨i, before, n, after, rfl, rfl, hnodup, hi⟩
        refine ⟨i, (j, m) :: before, n, after, rfl, rfl, ?_, (hkeys i before).1 hi⟩
        exact (nodup_append_cons_iff m).2 ⟨hj, hnodup⟩
      · rintro ⟨i, before, n, after, rfl, hes, hnodup, hi⟩
        cases before with
        | nil =>
          cases hes
          exact absurd (by simpa using hi) hj
        | cons b before =>
          cases hes
          exact ⟨i, before, n, after, rfl, rfl, ((nodup_append_cons_iff m).1 hnodup).2,
            (hkeys i before).2 hi⟩

/-! ## Loading a file -/

theorem holds_toUTF8 {text : String} (h : entries? text = some es) : Holds text.toUTF8 es :=
  ⟨text, dif_pos text.isValidUTF8, h⟩

theorem ofFile_eq (h : Holds bytes es) : ofFile (.ok bytes) = collect Graph.empty es := by
  obtain ⟨text, htext, hes⟩ := h
  simp only [ofFile, htext, load, hes]

theorem exists_ofFile_iff (h : Holds bytes es) :
    (∃ g, ofFile (.ok bytes) = .ok g) ↔ (es.map Prod.fst).Nodup := by
  rw [ofFile_eq h, exists_collect_iff]
  rfl

/-- What is loaded are the entries of the file. -/
theorem perm_of_ofFile (h : Holds bytes es) (hg : ofFile (.ok bytes) = .ok g) :
    (g.entries.map fun e => (e.index, e.node)).Perm es := by
  rw [ofFile_eq h] at hg
  have hperm := (perm_of_collect hg).map fun e : Entry => (e.index, e.node)
  simpa [Graph.empty, Function.comp_def] using hperm

/-- Files with the same entries in whatever order are loaded as the same history. -/
theorem ofFile_of_perm {other : ByteArray} {es' : List (MessageIndex × Node)} (h : Holds bytes es)
    (h' : Holds other es') (hperm : es'.Perm es) (hg : ofFile (.ok bytes) = .ok g) :
    ofFile (.ok other) = .ok g := by
  have hnodup : (es'.map Prod.fst).Nodup :=
    (hperm.map Prod.fst).nodup_iff.2 ((exists_ofFile_iff h).1 ⟨g, hg⟩)
  obtain ⟨g', hg'⟩ := (exists_ofFile_iff h').2 hnodup
  have hentries := ((perm_of_ofFile h' hg').trans hperm).trans (perm_of_ofFile h hg).symm
  have hsame := hentries.map fun e : MessageIndex × Node => (⟨e.1, e.2⟩ : Entry)
  simp only [List.map_map, Function.comp_def, List.map_id'] at hsame
  rw [hg', Graph.eq_of_perm hsame]

/-- **Loading a history.** A file that holds entries is loaded just if their indices are distinct. What
is loaded then are these entries in strictly increasing order of their indices, so that every file with
the same entries is loaded as the same history, whatever their order. Any other such file is refused,
and the refusal names the index of the first entry in the file that repeats one. -/
theorem ofFile_ordered (h : Holds bytes es) :
    ((∃ g, ofFile (.ok bytes) = .ok g) ↔ (es.map Prod.fst).Nodup) ∧
    (∀ g, ofFile (.ok bytes) = .ok g → g.keys.Pairwise (· < ·) ∧
      (g.entries.map fun e => (e.index, e.node)).Perm es) ∧
    (∀ other es', Holds other es' → es'.Perm es →
      ∀ g, ofFile (.ok other) = .ok g ↔ ofFile (.ok bytes) = .ok g) ∧
    ∀ e, ofFile (.ok bytes) = .error e ↔ ∃ i, e = .duplicate i ∧ FirstRepeated es i := by
  refine ⟨exists_ofFile_iff h, fun g hg => ⟨g.keys_pairwise, perm_of_ofFile h hg⟩,
    fun other es' h' hperm g => ?_, fun e => ?_⟩
  · exact ⟨ofFile_of_perm h' h hperm.symm, ofFile_of_perm h h' hperm⟩
  · rw [ofFile_eq h, collect_eq_error_iff]
    simp only [FirstRepeated, exists_and_left]
    rfl

/-- Two files with the same entries in different orders are loaded as one history. A file that repeats
two entries is refused under the index of the one that is repeated first. -/
theorem ofFile_ordered_two : ∃ (bytes other twice : ByteArray) (es es' : List (MessageIndex × Node))
    (g : Graph) (i : MessageIndex), Holds bytes es ∧ Holds other es' ∧ es'.Perm es ∧ es' ≠ es ∧
      ofFile (.ok bytes) = .ok g ∧ ofFile (.ok other) = .ok g ∧ g.keys.map MessageIndex.seq = [2, 7] ∧
        ofFile (.ok twice) = .error (.duplicate i) ∧ i.seq = 2 := by
  let two := "\x7b\"index\":2,\"kind\":\"deleted\"\x7d"
  let seven := "\x7b\"index\":7,\"kind\":\"deleted\"\x7d"
  let text := "[" ++ seven ++ "," ++ two ++ "]"
  let text' := "[" ++ two ++ "," ++ seven ++ "]"
  let twice := "[" ++ seven ++ "," ++ two ++ "," ++ two ++ "," ++ seven ++ "]"
  let a : MessageIndex × Node := (⟨2, by decide⟩, .deleted)
  let b : MessageIndex × Node := (⟨7, by decide⟩, .deleted)
  have h : Holds text.toUTF8 [b, a] := holds_toUTF8 (by decide +kernel)
  have h' : Holds text'.toUTF8 [a, b] := holds_toUTF8 (by decide +kernel)
  have htwice : Holds twice.toUTF8 [b, a, a, b] := holds_toUTF8 (by decide +kernel)
  have hperm : [a, b].Perm [b, a] := .swap b a []
  obtain ⟨hloaded, hgives, hsame, -⟩ := ofFile_ordered h
  obtain ⟨g, hg⟩ := hloaded.2 (by decide +kernel)
  obtain ⟨hsorted, hentries⟩ := hgives g hg
  have hkeys : g.keys = [a.1, b.1] := by
    have hmap : g.keys.Perm [b.1, a.1] := by
      simpa [Graph.keys, Function.comp_def] using hentries.map Prod.fst
    exact eq_of_mem_iff hsorted (by decide) fun _ =>
      (hmap.trans (.swap a.1 b.1 [])).mem_iff
  obtain ⟨-, -, -, hrefused⟩ := ofFile_ordered htwice
  refine ⟨text.toUTF8, text'.toUTF8, twice.toUTF8, [b, a], [a, b], g, a.1, h, h', hperm, by decide,
    hg, (hsame _ _ h' hperm g).2 hg, ?_, ?_, rfl⟩
  · rw [hkeys]
    rfl
  · exact (hrefused _).2 ⟨a.1, rfl, [b, a], .deleted, [b], rfl, by decide, by decide⟩

end History

end Scrollback
