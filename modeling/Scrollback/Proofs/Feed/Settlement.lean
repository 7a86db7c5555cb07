import Scrollback.Proofs.Feed.End
/-!
# How a page request settles

Whether a page request succeeds or fails depends on the server and on the way to it. All that the
reader can count on is that a failed request loads nothing and that a page leaves no hole. A page
that promises more has brought something already, so promises do not go on for ever.

## Main definitions

* `Feed.Settles` — a page request may settle this way.
* `Feed.missing` — how many messages are not loaded.

## Main statements

* `Feed.settles_settle` — the feed settles its requests in one of these ways.
* `Feed.Settles.missing_lt` — a page that promises more leaves less missing.
-/

namespace Scrollback.Feed

variable {f f' : Feed} {d : Direction} {a : Option FetchResult}

/-- The loaded part is a slice of the history whatever was counted. -/
theorem spans_recount (hspans : ∃ a b, f.Spans a b) (n : Nat) :
    ∃ a b, ({ f with requests := n } : Feed).Spans a b := by
  obtain ⟨a, b, hs⟩ := hspans
  exact ⟨a, b, hs.congr rfl rfl⟩

/-- A page request may settle this way: it fails for any reason, or a page is served, or there is no
answer. However many requests were counted does not matter. -/
inductive Settles (f : Feed) (d : Direction) : Feed → Option FetchResult → Prop where
  | failed (n : Nat) (e : FetchError) : Settles f d { f with requests := n } (some (.failed e))
  | loaded (n : Nat) {f' : Feed} {o : FetchOutcome} :
      ({ f with requests := n } : Feed).serve d = .ok (f', o) → Settles f d f' (some (.loaded o))
  | lost (n : Nat) : Settles f d { f with requests := n } none

/-- The feed settles its requests in one of these ways. -/
theorem settles_settle (f : Feed) (d : Direction) :
    f.Settles d (f.settle d).1 (f.settle d).2.toOption := by
  rcases f.settle_cases d with ⟨g, e, hg, heq⟩ | ⟨g, o, hserve, -, heq⟩ | ⟨g, fault, hg, heq⟩
  · rw [heq, hg.eq]
    exact .failed g.requests e
  · rw [heq]
    exact .loaded (f.requests + 1) hserve
  · rw [heq, hg.eq]
    exact .lost g.requests

/-- However a request settles, the loaded part loses nothing. -/
theorem Settles.exists_grows (h : f.Settles d f' a) :
    ∃ n, Grows { f with requests := n } f' := by
  cases h with
  | failed n e => exact ⟨n, .refl _⟩
  | loaded n hserve => exact ⟨n, grows_serve hserve⟩
  | lost n => exact ⟨n, .refl _⟩

theorem Settles.config (h : f.Settles d f' a) : f'.config = f.config := by
  obtain ⟨n, hgrows⟩ := h.exists_grows
  exact hgrows.config

theorem Settles.exists_spans (h : f.Settles d f' a) (hspans : ∃ a b, f.Spans a b) :
    ∃ a b, f'.Spans a b := by
  obtain ⟨n, hgrows⟩ := h.exists_grows
  exact hgrows.exists_spans (spans_recount hspans n)

theorem Settles.remote (h : f.Settles d f' a) : f'.remote = f.remote := by
  cases h with
  | failed n e => rfl
  | loaded n hserve => exact (serve_frame hserve).1
  | lost n => rfl

/-- A page that promises more has brought something. -/
theorem size_lt_of_serve (hspans : ∃ a b, f.Spans a b) (hpos : 0 < f.config.pageSize)
    (hf : f.serve d = .ok (f', .more)) : f.loaded.size < f'.loaded.size := by
  obtain ⟨a, b, hs⟩ := hspans
  have hsize := hs.size_loaded
  rcases Nat.lt_or_eq_of_le hs.le with hab | rfl
  · cases d with
    | older =>
      obtain ⟨hs', hlast⟩ := hs.serve_older hab hf
      have hmore := mt hlast.2 FetchOutcome.noConfusion
      rw [hsize, hs'.size_loaded]
      omega
    | newer =>
      obtain ⟨hs', hlast⟩ := hs.serve_newer hab hf
      have hmore := mt hlast.2 FetchOutcome.noConfusion
      rw [hsize, hs'.size_loaded]
      omega
  · have hempty := hs.entries_eq_nil
    cases d with
    | older =>
      obtain ⟨hs', hlast⟩ := serve_older_of_empty hempty hf
      have hmore := mt hlast.2 FetchOutcome.noConfusion
      rw [hsize, hs'.size_loaded]
      omega
    | newer =>
      -- toward newer messages the page of an empty loaded part is the last one
      rw [serve_newer_eq, newerStart_of_empty hempty] at hf
      split at hf
      · have hmore : f.outcome .newer f.remote.size
            (min (f.remote.size + f.config.pageSize) f.remote.size) = .more :=
          (Prod.mk.inj (Except.ok.inj hf)).2
        have hlast := (f.outcome_newer_eq_exhausted f.remote.size _).2
          (Nat.min_eq_right (Nat.le_add_right f.remote.size f.config.pageSize))
        rw [hmore] at hlast
        cases hlast
      · cases hf

/-- How many messages of the history are not loaded. -/
def missing (f : Feed) : Nat := f.remote.size - f.loaded.size

theorem Spans.size_loaded_le {a b : Nat} (h : f.Spans a b) : f.loaded.size ≤ f.remote.size := by
  have hsize := h.size_loaded
  have hle := h.le_size
  omega

/-- However a request settles, no more is missing, and less if something was loaded. -/
theorem Settles.missing_le (h : f.Settles d f' a) (hspans : ∃ a b, f.Spans a b) :
    f'.missing ≤ f.missing ∧ (f'.loaded.size ≠ f.loaded.size → f'.missing < f.missing) := by
  obtain ⟨n, hgrows⟩ := h.exists_grows
  have hle : f.loaded.size ≤ f'.loaded.size := hgrows.size_loaded_le (spans_recount hspans n)
  obtain ⟨a', b', hs'⟩ := h.exists_spans hspans
  have hsize := hs'.size_loaded_le
  rw [h.remote] at hsize
  rw [missing, missing, h.remote]
  omega

/-- **A page that promises more leaves less missing.** -/
theorem Settles.missing_lt (h : f.Settles d f' (some (.loaded .more)))
    (hspans : ∃ a b, f.Spans a b) (hpos : 0 < f.config.pageSize) : f'.missing < f.missing := by
  cases h with
  | loaded n hserve =>
    have hlt := size_lt_of_serve (spans_recount hspans n) hpos hserve
    exact ((Settles.loaded n hserve).missing_le hspans).2 (Nat.ne_of_gt hlt)

end Scrollback.Feed
