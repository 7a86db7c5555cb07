import Scrollback.Proofs.Feed.Span
/-!
# Jumps to the newest page

A jump joins the newest page to the loaded span where the two meet, and nothing is lost. Where they
do not meet, joining them would leave a hole, and the page takes the place of the span.

## Main statements

* `Feed.jumpToLatest_of_reaches` — what is told of a page that is joined to the loaded part.
* `Feed.Spans.not_spans_loadLatest` — a page that the span does not come up to leaves a hole.
* `Feed.jumpToLatest_exact` — what a jump loads and what it tells, from any span.
-/

namespace Scrollback.Feed

variable {f : Feed} {a b c d : Nat}

/-- A page that is joined to the loaded part is told by the number of messages gained. -/
theorem jumpToLatest_of_reaches (h : f.reachesLatest = true) : f.jumpToLatest =
    (f.loadLatest.1, .extended (f.loaded.gained f.loadLatest.1.loaded).length) := by
  rw [jumpToLatest, if_pos h]
  exact congrArg (fun k => (f.loadLatest.1, LatestPage.extended k))
    (Graph.length_gained_extend _ _).symm

/-- The newest page leaves a hole if it is joined to a span that does not come up to it. -/
theorem Spans.not_spans_loadLatest (h : f.Spans a b) (hab : a < b) (hb : b < f.latestStart)
    (hpage : 1 ≤ f.config.pageSize) : ¬ f.loadLatest.1.Spans c d := by
  intro hjoined
  have hstart : f.latestStart = f.remote.size - f.config.pageSize := rfl
  -- the span would hold the positions of the page and of the old span, and no others
  have hat : ∀ i < f.remote.size,
      (c ≤ i ∧ i < d) ↔ (f.latestStart ≤ i ∧ i < f.remote.size) ∨ (a ≤ i ∧ i < b) := by
    intro i hi
    have hget := List.getElem?_eq_getElem hi
    rw [← Graph.mem_slice_iff_of_entry hget, ← Graph.mem_slice_iff_of_entry hget,
      ← Graph.mem_slice_iff_of_entry hget, ← Graph.mem_extend_slice h.entries]
    exact iff_of_eq (congrArg _ hjoined.entries.symm)
  have hbefore := hat a
  have hhole := hat b
  have hafter := hat (f.remote.size - 1)
  omega

/-- **A jump replaces only where it must.** Where the loaded span is empty or comes up to the newest
page, the page is joined to it, nothing is lost, and the jump tells how many messages it brought.
Where the span stops before the page, the two together would have a hole, and the page is all that
is loaded. -/
theorem jumpToLatest_exact (h : f.Spans a b) (hpage : 1 ≤ f.config.pageSize) :
    let n := f.remote.size
    let s := n - min f.config.pageSize n
    f.jumpToLatest.1.remote = f.remote ∧
    (a < b → s ≤ b → ∃ g, f.jumpToLatest = (g, .extended (f.loaded.gained g.loaded).length) ∧
      g.loaded.entries = f.remote.slice (min a s) n ∧ f.loaded.entries ⊆ g.loaded.entries) ∧
    (a = b → ∃ g, f.jumpToLatest = (g, .extended (n - s)) ∧
      g.loaded.entries = f.remote.slice s n) ∧
    (a < b → b < s → (∃ g, f.jumpToLatest = (g, .replaced) ∧
      g.loaded.entries = f.remote.slice s n) ∧ ∀ c d, ¬ f.loadLatest.1.Spans c d) := by
  intro n s
  have hs : s = f.latestStart := by
    simp only [s, n, latestStart]
    omega
  have hremote := f.jumpToLatest_frame.1
  rw [hs]
  refine ⟨hremote, fun hab hsb => ?_, ?_, fun hab hbs => ⟨?_, fun c d => ?_⟩⟩
  · have hjoined := h.loadLatest hsb
    refine ⟨f.loadLatest.1, jumpToLatest_of_reaches ((h.reachesLatest_iff hab).2 hsb),
      hjoined.entries, ?_⟩
    exact h.entries_subset hjoined rfl (Nat.min_le_left _ _) h.le_size
  · rintro rfl
    have hempty := h.entries_eq_nil
    have hloaded := loadLatest_of_empty hempty
    have hgained := (Spans.of_empty hempty f.latestStart_le).length_gained hloaded rfl
      (Nat.le_refl _) f.latestStart_le
    rw [Nat.sub_self, Nat.zero_add] at hgained
    exact ⟨f.loadLatest.1, hgained ▸ jumpToLatest_of_reaches (reachesLatest_of_empty hempty),
      hloaded.entries⟩
  · have hfar : f.reachesLatest = false := by
      rw [← Bool.not_eq_true, h.reachesLatest_iff hab]
      exact Nat.not_le.2 hbs
    have hjump : f.jumpToLatest = (f.jumpToLatest.1, .replaced) := by
      rw [jumpToLatest, hfar]
      rfl
    have hentries := (jumpToLatest_replaced hjump).2.entries
    rw [hremote] at hentries
    exact ⟨f.jumpToLatest.1, hjump, hentries⟩
  · exact h.not_spans_loadLatest hab hbs hpage

/-- The newest page of six messages begins at the fifth. It is joined to the fourth message, and it
takes the place of the third. -/
theorem jumpToLatest_exact_six : ∃ f f' g g' : Feed, f.remote.size = 6 ∧ f'.remote = f.remote ∧
    f.Spans 3 4 ∧ f.jumpToLatest = (g, .extended (f.loaded.gained g.loaded).length) ∧
      g.loaded.entries = f.remote.slice 3 6 ∧
    f'.Spans 2 3 ∧ f'.jumpToLatest = (g', .replaced) ∧
      g'.loaded.entries = f.remote.slice 4 6 := by
  let remote := Graph.ofEntries
    [⟨⟨1, by decide⟩, .deleted⟩, ⟨⟨2, by decide⟩, .deleted⟩, ⟨⟨5, by decide⟩, .deleted⟩,
      ⟨⟨8, by decide⟩, .deleted⟩, ⟨⟨9, by decide⟩, .deleted⟩, ⟨⟨30, by decide⟩, .deleted⟩]
  let f : Feed :=
    { remote, loaded := Graph.ofEntries (remote.slice 3 4), config := { pageSize := 2 } }
  let f' : Feed := { f with loaded := Graph.ofEntries (remote.slice 2 3) }
  have hsize : remote.size = 6 := by decide +kernel
  have hnear : f.Spans 3 4 := ⟨by decide, by decide +kernel, by decide +kernel⟩
  have hfar : f'.Spans 2 3 := ⟨by decide, by decide +kernel, by decide +kernel⟩
  obtain ⟨-, hextends, -, -⟩ := jumpToLatest_exact hnear (by decide)
  obtain ⟨-, -, -, hreplaces⟩ := jumpToLatest_exact hfar (by decide)
  obtain ⟨g, hjump, hentries, -⟩ := hextends (by decide) (by decide +kernel)
  obtain ⟨⟨g', hjump', hentries'⟩, -⟩ := hreplaces (by decide) (by decide +kernel)
  rw [hsize] at hentries hentries'
  exact ⟨f, f', g, g', hsize, rfl, hnear, hjump, hentries, hfar, hjump', hentries'⟩

end Scrollback.Feed
