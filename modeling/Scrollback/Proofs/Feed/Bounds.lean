import Scrollback.History
import Scrollback.Proofs.Feed.Contiguous
/-!
# The bounds of what is loaded

Whatever a feed loads is a slice of the history, and its bounds come from ranks, the number of
messages and the length of a page. Differences stop at zero and far ends stop where the history
does, so a slice always lies within the history. But two of the far ends are sums that are taken
before they are cut off: half a page after the place of a message, and a whole page after what is
loaded. Half a page is too short for its sum to pass the largest count. A whole page need not be.

## Main definitions

* `Feed.Loading` — what a feed loads messages for.
* `Feed.bounds` — the bounds of the slice to be loaded.
* `Feed.farEnd?` — the sum that its far end is cut off from.

## Main statements

* `Feed.load_eq` — loading copies the slice between the bounds.
* `Feed.bounds_within` — the bounds are in order and within the history, unless the sum is no count;
  and which sums may be none.
-/

namespace Scrollback

namespace Feed

variable {f f' : Feed} {start stop : Nat} {fault : Fault}

/-- What a feed loads messages for. -/
inductive Loading where
  /-- The newest page. -/
  | latest
  /-- A jump to the newest message. -/
  | jump
  /-- The page around an index. -/
  | around (target : MessageIndex)
  /-- The page that continues the loaded part in a direction. -/
  | page (d : Direction)
deriving DecidableEq

/-- The feed after the messages were loaded. -/
def load (f : Feed) : Loading → Checked Feed
  | .latest => .ok f.loadLatest.1
  | .jump => .ok f.jumpToLatest.1
  | .around target => (f.loadAround target).map Prod.fst
  | .page d => (f.serve d).map Prod.fst

/-- The positions at which the messages to be loaded begin and stop. -/
def bounds (f : Feed) : Loading → Checked (Nat × Nat)
  | .latest | .jump => .ok (f.latestStart, f.remote.size)
  | .around target => do
    let stop ← Count.add (f.remote.rank target) (f.config.pageSize / 2)
    return (f.remote.rank target - f.config.pageSize / 2, min stop f.remote.size)
  | .page d => f.pageBounds d

/-- What the messages are joined to: a jump drops a loaded part that ends too early. -/
def kept (f : Feed) : Loading → Feed
  | .jump => if f.reachesLatest then f else { f with loaded := Graph.empty }
  | _ => f

/-- The sum of counts that the far end is cut off from, if it is computed by one. -/
def farEnd? (f : Feed) : Loading → Option Nat
  | .around target => some (f.remote.rank target + f.config.pageSize / 2)
  | .page .newer => some (f.newerStart + f.config.pageSize)
  | .latest | .jump | .page .older => none

/-! ## Loading by bounds -/

theorem jumpToLatest_eq (f : Feed) :
    f.jumpToLatest.1 = ((f.kept .jump).copy f.latestStart f.remote.size).1 := by
  rw [jumpToLatest, kept]
  split <;> rfl

/-- Loading copies the slice between the bounds. -/
theorem load_eq (f : Feed) (l : Loading) :
    f.load l = (f.bounds l).map fun b => ((f.kept l).copy b.1 b.2).1 := by
  cases l with
  | latest => rfl
  | jump => exact congrArg Except.ok f.jumpToLatest_eq
  | around target =>
    rw [load, loadAround, bounds]
    cases Count.add (f.remote.rank target) (f.config.pageSize / 2) <;> rfl
  | page d =>
    rw [load, serve, bounds]
    cases f.pageBounds d <;> rfl

/-! ## Bounds in order -/

theorem bounds_around_eq (f : Feed) (target : MessageIndex) :
    f.bounds (.around target) =
      (Count.add (f.remote.rank target) (f.config.pageSize / 2)).map fun stop =>
        (f.remote.rank target - f.config.pageSize / 2, min stop f.remote.size) := by
  rw [bounds]
  cases Count.add (f.remote.rank target) (f.config.pageSize / 2) <;> rfl

theorem bounds_older_eq (f : Feed) :
    f.bounds (.page .older) = .ok (f.olderStop - f.config.pageSize, f.olderStop) := rfl

theorem bounds_newer_eq (f : Feed) :
    f.bounds (.page .newer) = (Count.add f.newerStart f.config.pageSize).map fun stop =>
      (f.newerStart, min stop f.remote.size) := by
  rw [bounds, pageBounds, ← newerStart]
  cases Count.add f.newerStart f.config.pageSize <;> rfl

theorem olderStop_le (f : Feed) : f.olderStop ≤ f.remote.size := by
  rw [olderStop]
  cases f.loaded.smallest? with
  | none => exact Nat.le_refl _
  | some k => exact f.remote.rank_le_size k

/-- The bounds are in order, and within the history. -/
theorem bounds_le {l : Loading} (h : f.bounds l = .ok (start, stop)) :
    start ≤ stop ∧ stop ≤ f.remote.size := by
  cases l with
  | latest =>
    cases h
    exact ⟨f.latestStart_le, Nat.le_refl _⟩
  | jump =>
    cases h
    exact ⟨f.latestStart_le, Nat.le_refl _⟩
  | around target =>
    rw [bounds_around_eq] at h
    obtain ⟨sum, hsum, hbounds⟩ := Checked.map_eq_ok.1 h
    obtain ⟨-, rfl⟩ := Count.add_eq_ok.1 hsum
    cases hbounds
    have hrank := f.remote.rank_le_size target
    omega
  | page d =>
    cases d with
    | older =>
      cases h
      exact ⟨Nat.sub_le _ _, f.olderStop_le⟩
    | newer =>
      rw [bounds_newer_eq] at h
      obtain ⟨sum, hsum, hbounds⟩ := Checked.map_eq_ok.1 h
      obtain ⟨-, rfl⟩ := Count.add_eq_ok.1 hsum
      cases hbounds
      have hstart := f.newerStart_le
      omega

/-- There are no bounds just if the sum for the far end is no count. -/
theorem bounds_eq_error_iff {l : Loading} :
    f.bounds l = .error fault ↔ fault = .addOverflow ∧ ∃ n ∈ f.farEnd? l, Count.bound ≤ n := by
  cases l with
  | latest => simp [bounds, farEnd?]
  | jump => simp [bounds, farEnd?]
  | around target =>
    rw [bounds_around_eq, Checked.map_eq_error, Count.add_eq_error]
    simp [farEnd?, and_comm]
  | page d =>
    cases d with
    | older => simp [bounds_older_eq, farEnd?]
    | newer =>
      rw [bounds_newer_eq, Checked.map_eq_error, Count.add_eq_error]
      simp [farEnd?, and_comm]

/-! ## Sums that are counts -/

theorem farEnd?_le {l : Loading} {n : Nat} (hn : n ∈ f.farEnd? l) :
    n ≤ f.remote.size + f.config.pageSize := by
  cases l with
  | around target =>
    cases hn
    have hrank := f.remote.rank_le_size target
    omega
  | page d =>
    cases d with
    | older => cases hn
    | newer =>
      cases hn
      exact Nat.add_le_add_right f.newerStart_le _
  | _ => cases hn

/-- A history that can be held and half of any page come to a count. -/
theorem farEnd?_lt {l : Loading} {n : Nat} (hpage : f.config.pageSize < Count.bound)
    (hsize : f.remote.size ≤ History.messageLimit) (hn : n ∈ f.farEnd? l)
    (hl : l ≠ .page .newer) : n < Count.bound := by
  cases l with
  | around target =>
    cases hn
    have hrank := f.remote.rank_le_size target
    have hlimit : History.messageLimit + Count.bound / 2 < Count.bound := by decide
    omega
  | page d =>
    cases d with
    | older => cases hn
    | newer => exact absurd rfl hl
  | _ => cases hn

theorem load_eq_error_iff {l : Loading} :
    f.load l = .error fault ↔ fault = .addOverflow ∧ ∃ n ∈ f.farEnd? l, Count.bound ≤ n := by
  rw [load_eq, Checked.map_eq_error, bounds_eq_error_iff]

theorem exists_load (l : Loading) (h : f.remote.size + f.config.pageSize < Count.bound) :
    ∃ f', f.load l = .ok f' := by
  cases hload : f.load l with
  | ok f' => exact ⟨f', rfl⟩
  | error fault =>
    obtain ⟨-, n, hn, hbound⟩ := load_eq_error_iff.1 hload
    have hle := farEnd?_le hn
    omega

/-- **Bounds of what is loaded.** Whatever a feed holds and however long its pages are, loading
copies the slice of the history between two bounds, and these are in order and within the history;
so is the position that a jump looks at before it. Loading faults just if a bound is cut off from a
sum that is no count. For a page and a history of lengths that there can be, this happens to no
bound but the far end of a page of newer messages, a whole page after what is loaded; and to none at
all if page and history are together as long as a count can tell. -/
theorem bounds_within (f : Feed) (l : Loading) :
    (∀ f', f.load l = .ok f' → ∃ start stop, f.bounds l = .ok (start, stop) ∧
      start ≤ stop ∧ stop ≤ f.remote.size ∧ f' = ((f.kept l).copy start stop).1) ∧
    (∀ before, f.latestStart = before + 1 → before < f.remote.size) ∧
    (∀ fault, f.load l = .error fault ↔
      fault = .addOverflow ∧ ∃ n ∈ f.farEnd? l, Count.bound ≤ n) ∧
    (f.config.pageSize < Count.bound → f.remote.size ≤ History.messageLimit →
      ∀ fault, f.load l = .error fault ↔ fault = .addOverflow ∧ l = .page .newer ∧
        Count.bound ≤ f.newerStart + f.config.pageSize) ∧
    (f.remote.size + f.config.pageSize < Count.bound → ∃ f', f.load l = .ok f') := by
  refine ⟨?_, ?_, fun fault => load_eq_error_iff, ?_, exists_load l⟩
  · intro f' hload
    rw [load_eq] at hload
    obtain ⟨⟨start, stop⟩, hbounds, rfl⟩ := Checked.map_eq_ok.1 hload
    obtain ⟨hle, hsize⟩ := bounds_le hbounds
    exact ⟨start, stop, hbounds, hle, hsize, rfl⟩
  · intro before hbefore
    have hle := f.latestStart_le
    omega
  · intro hpage hsize fault
    rw [load_eq_error_iff]
    refine and_congr_right fun _ => ⟨?_, ?_⟩
    · rintro ⟨n, hn, hbound⟩
      have hl : l = .page .newer := by
        by_contra hl
        exact Nat.not_lt.2 hbound (farEnd?_lt hpage hsize hn hl)
      subst hl
      cases hn
      exact ⟨rfl, hbound⟩
    · rintro ⟨rfl, hbound⟩
      exact ⟨_, rfl, hbound⟩

/-- Pages of the greatest length are no obstacle to the page around a message, nor to a jump. -/
theorem bounds_within_longest :
    let f := opened (Graph.ofEntries [⟨⟨1, by decide⟩, .deleted⟩, ⟨⟨2, by decide⟩, .deleted⟩])
      { pageSize := Count.bound - 1 } .latest
    f.config.pageSize < Count.bound ∧ f.remote.size ≤ History.messageLimit ∧
      (∀ fault, f.load (.around ⟨2, by decide⟩) ≠ .error fault) ∧
        ∀ fault, f.load .jump ≠ .error fault := by
  intro f
  have hpage : f.config.pageSize < Count.bound := by decide +kernel
  have hsize : f.remote.size ≤ History.messageLimit := by decide +kernel
  obtain ⟨-, -, -, haround, -⟩ := bounds_within f (.around ⟨2, by decide⟩)
  obtain ⟨-, -, -, hjump, -⟩ := bounds_within f .jump
  refine ⟨hpage, hsize, fun fault h => ?_, fun fault h => ?_⟩
  · cases ((haround hpage hsize fault).1 h).2.1
  · cases ((hjump hpage hsize fault).1 h).2.1

/-- A page of newer messages would end at no count, though its length is one. -/
theorem exists_page_overflow : ∃ (remote : Graph) (config : FeedConfig), 1 ≤ config.pageSize ∧
    config.pageSize < Count.bound ∧ remote.size ≤ History.messageLimit ∧
      (opened remote config .latest).load (.page .newer) = .error .addOverflow := by
  let remote := Graph.ofEntries [⟨⟨1, by decide⟩, .deleted⟩, ⟨⟨2, by decide⟩, .deleted⟩]
  let config : FeedConfig := { pageSize := Count.bound - 1 }
  refine ⟨remote, config, by decide, by decide, by decide +kernel, ?_⟩
  refine load_eq_error_iff.2 ⟨rfl, _, rfl, ?_⟩
  decide +kernel

end Feed

end Scrollback
