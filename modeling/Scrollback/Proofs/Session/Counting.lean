import Scrollback.Proofs.Session.CatchUp
/-!
# Which messages are unread

The session keeps the number of unread messages, and not which ones they are. They are those that
were unread when the session was opened, together with those of others of which the news was heard
since, or only the latter from the last time on that everything was read. What the reader sends is
never unread.

## Main definitions

* `Session.counted` — the messages that are unread, as the history tells.
* `Session.unannounced` — the messages that came into the history without news of them.

## Main statements

* `Session.Run.records` — the history is what it was, what was heard and what waits to be heard, but
  for what came in without news.
* `Session.Run.newest_eq_counted` — the newest messages are the unread ones, as long as none of them
  came in without news.
-/

namespace Scrollback.Session

variable {s s' a b : Session} {m : Move} {es : List Event} {h : List (Session × Move)}

/-! ## What a move brings -/

/-- What a move brings into the history, and what it has heard. -/
inductive Delivers (s : Session) (m : Move) (s' : Session) : Prop
  /-- Nothing. -/
  | nothing : s'.feed.remote.keys = s.feed.remote.keys → s.heard m = [] →
      s'.waiting = s.waiting → (s'.unread = 0 ∨ s'.unread = s.unread) → Delivers s m s'
  /-- Somebody else's message, of which news waits. -/
  | announces (i : MessageIndex) : i ∉ s.feed.remote.keys →
      s'.feed.remote.keys = s.feed.remote.keys ++ [i] → s.heard m = [] →
      s'.waiting = s.waiting ++ [i] → (s'.unread = 0 ∨ s'.unread = s.unread) → Delivers s m s'
  /-- A message without news of it. -/
  | adds (i : MessageIndex) : i ∉ s.feed.remote.keys →
      s'.feed.remote.keys = s.feed.remote.keys ++ [i] → s.heard m = [] →
      s'.waiting = s.waiting → (s'.unread = 0 ∨ s'.unread = s.unread) → Delivers s m s'
  /-- Nothing, but the news of somebody else's message is heard. -/
  | hears (i : MessageIndex) : s'.feed.remote.keys = s.feed.remote.keys → s.heard m = [i] →
      s.waiting = i :: s'.waiting → (s'.unread = 0 ∨ s'.unread = s.unread + 1) → Delivers s m s'

theorem not_mem_of_append {f g : Feed} {msg : Message} {i : MessageIndex}
    (hf : f.append msg = .ok (g, i)) : i ∉ f.remote.keys :=
  fun hi => MessageIndex.lt_irrefl i (Feed.lt_of_append hf i hi)

/-- Every move brings one message at most. -/
theorem move_delivers (hm : s.move m = some s') : Delivers s m s' := by
  obtain ⟨a, es, b, htold, htell, rfl⟩ := exists_told hm
  obtain ⟨tasks, started, heq⟩ := b.exists_settleMove_eq m
  obtain ⟨hremote, hnews, hunread⟩ := tell_frame htell
  have hkeys : (b.settleMove m).feed.remote.keys = a.feed.remote.keys := by rw [heq, hremote]
  have hwaiting : (b.settleMove m).waiting = a.waiting := by
    rw [waiting, heq]
    exact congrArg _ hnews
  have hcount : (b.settleMove m).unread = 0 ∨ (b.settleMove m).unread = a.unread := by
    rw [heq]
    exact hunread
  cases told_change htold with
  | nothing es _ hheard hfeed hsame hwait =>
    exact .nothing (by rw [hkeys, hfeed]) hheard (hwaiting.trans hwait) (hsame ▸ hcount)
  | answers d _ hheard hfeed hsame hwait =>
    refine .nothing ?_ hheard (hwaiting.trans hwait) (hsame ▸ hcount)
    rw [hkeys, hfeed, Feed.settle_remote]
  | acknowledges sent _ hheard hfeed hsame hwait =>
    refine .nothing ?_ hheard (hwaiting.trans hwait) (hsame ▸ hcount)
    rw [hkeys, hfeed, Feed.acknowledge_keys]
  | announces msg i _ hheard happend hsame hwait =>
    refine .announces i (not_mem_of_append happend) ?_ hheard (hwaiting.trans hwait)
      (hsame ▸ hcount)
    rw [hkeys, Feed.remote_keys_append happend]
  | adds es msg i grown _ hheard happend hr _ _ _ hsame hwait =>
    refine .adds i (not_mem_of_append happend) ?_ hheard (hwaiting.trans hwait) (hsame ▸ hcount)
    rw [hkeys, hr, Feed.remote_keys_append happend]
  | hears i _ hheard hfeed hmore hwait =>
    refine .hears i (by rw [hkeys, hfeed]) hheard ?_ (hmore ▸ hcount)
    rw [hwait, hwaiting]

/-! ## What the history tells -/

/-- The messages of others of which the news was heard, oldest first. -/
def heardSince : List (Session × Move) → List MessageIndex
  | [] => []
  | (p, m) :: h => heardSince h ++ p.heard m

/-- The messages that a move brings into the history without news of them: what the reader sends,
and what comes in when no news is taken any more. -/
def addedSilently (s : Session) (m : Move) : List MessageIndex :=
  match s.move m with
  | some s' =>
    if s.waiting.length < s'.waiting.length then []
    else s'.feed.remote.keys.drop s.feed.remote.keys.length
  | none => []

/-- The messages that came into the history without news of them. -/
def unannounced : List (Session × Move) → List MessageIndex
  | [] => []
  | (p, m) :: h => unannounced h ++ p.addedSilently m

/-- The messages that are unread, oldest first: those that were so when the session was opened and
those of others of which the news was heard since, from the last time on that nothing was unread. -/
def counted : List (Session × Move) → Session → List MessageIndex
  | [], s => s.feed.remote.newest s.unread
  | (p, m) :: h, s => if s.unread = 0 then [] else counted h p ++ p.heard m

theorem addedSilently_of_keys_eq (hm : s.move m = some s')
    (hkeys : s'.feed.remote.keys = s.feed.remote.keys) : s.addedSilently m = [] := by
  simp [addedSilently, hm, hkeys]

/-- The history is what it was at first, what was heard and what waits to be heard, but for the
messages that came in without news. -/
structure Records (h : List (Session × Move)) (s : Session) : Prop where
  keys : s.feed.remote.keys.filter (fun i => decide (i ∉ unannounced h)) =
    (origin h s).feed.remote.keys ++ heardSince h ++ s.waiting
  mem : ∀ i ∈ unannounced h, i ∈ s.feed.remote.keys

theorem Records.move (hr : Records h s) (hm : s.move m = some s') :
    Records ((s, m) :: h) s' := by
  have hkeys := hr.keys
  cases move_delivers hm with
  | nothing hsame hheard hwait _ =>
    have hsilent := addedSilently_of_keys_eq hm hsame
    constructor
    · simpa [unannounced, heardSince, origin, hsilent, hheard, hsame, hwait] using hkeys
    · simpa [unannounced, hsilent, hsame] using hr.mem
  | announces i hfresh hnew hheard hwait _ =>
    have hsilent : s.addedSilently m = [] := by simp [addedSilently, hm, hwait]
    have hi : i ∉ unannounced h := fun hi => hfresh (hr.mem i hi)
    constructor
    · rw [unannounced, hsilent, List.append_nil, hnew, List.filter_append, hkeys, hwait]
      simp [heardSince, origin, hheard, hi]
    · intro j hj
      rw [hnew]
      exact List.mem_append_left _ (hr.mem j (by simpa [unannounced, hsilent] using hj))
  | adds i hfresh hnew hheard hwait _ =>
    have hsilent : s.addedSilently m = [i] := by simp [addedSilently, hm, hwait, hnew]
    constructor
    · have hothers : s.feed.remote.keys.filter (fun j => decide (j ∉ unannounced h ++ [i])) =
          s.feed.remote.keys.filter (fun j => decide (j ∉ unannounced h)) := by
        refine List.filter_congr fun j hj => ?_
        have hne : j ≠ i := fun heq => hfresh (heq ▸ hj)
        simp [hne]
      rw [unannounced, hsilent, hnew, List.filter_append, hothers, hkeys, hwait]
      simp [heardSince, origin, hheard]
    · intro j hj
      rw [unannounced, hsilent, List.mem_append] at hj
      rw [hnew, List.mem_append]
      exact hj.imp_left (hr.mem j)
  | hears i hsame hheard hwait _ =>
    have hsilent := addedSilently_of_keys_eq hm hsame
    constructor
    · rw [hwait] at hkeys
      simpa [unannounced, heardSince, origin, hsilent, hheard, hsame] using hkeys
    · simpa [unannounced, hsilent, hsame] using hr.mem

/-- **What the history holds** in every run. -/
theorem Run.records (hrun : Run h s) : Records h s := by
  induction hrun with
  | opened ho =>
    constructor
    · simp [unannounced, heardSince, origin, waiting, ho.news]
    · simp [unannounced]
  | move _ hm ih => exact ih.move hm

/-- The unread messages are the last ones of those that there were at first and those that were
heard. -/
theorem Run.counted_eq (hrun : Run h s) : counted h s =
    ((origin h s).feed.remote.keys ++ heardSince h).rtake s.unread := by
  induction hrun with
  | opened ho => simp [counted, origin, heardSince, Graph.newest]
  | @move h s s' m _ hm ih =>
    rw [counted, origin, heardSince, ih]
    split
    · next hzero => simp [hzero]
    · next hpos =>
      cases move_delivers hm with
      | hears i _ hheard _ hunread =>
        rw [hheard, hunread.resolve_left hpos, ← List.append_assoc, List.rtake_concat_succ]
      | nothing _ hheard _ hunread => simp [hheard, hunread.resolve_left hpos]
      | announces i _ _ hheard _ hunread => simp [hheard, hunread.resolve_left hpos]
      | adds i _ _ hheard _ hunread => simp [hheard, hunread.resolve_left hpos]

/-- The last members of a list stay the last where they all pass a test. -/
theorem rtake_filter {α : Type} {p : α → Bool} {l : List α} {n : Nat}
    (hp : ∀ x ∈ l.rtake n, p x = true) : (l.filter p).rtake n = l.rtake n := by
  have hsplit : l.take (l.length - n) ++ l.rtake n = l := List.take_append_drop _ _
  have hfilter : l.filter p = (l.take (l.length - n)).filter p ++ l.rtake n := by
    conv_lhs => rw [← hsplit, List.filter_append, List.filter_eq_self.2 hp]
  have hlength : (l.rtake n).length = min n l.length := by
    rw [List.rtake, List.length_drop]
    omega
  rw [hfilter]
  by_cases hn : n ≤ l.length
  · have hsize : (l.rtake n).length = n := by omega
    rw [List.rtake, List.length_append, hsize, Nat.add_sub_cancel, List.drop_left]
  · have hall : l.length - n = 0 := by omega
    rw [hall, List.take_zero, List.filter_nil, List.nil_append, List.rtake, List.rtake, hall,
      List.drop_zero, hall, List.drop_zero]

/-- **The newest messages are the unread ones** when no news waits, as long as none of them came in
without news. -/
theorem Run.newest_eq_counted (hrun : Run h s) (hwaiting : s.waiting = [])
    (hnews : ∀ i ∈ s.feed.remote.newest s.unread, i ∉ unannounced h) :
    s.feed.remote.newest s.unread = counted h s := by
  have hkeys := hrun.records.keys
  rw [hwaiting, List.append_nil] at hkeys
  rw [hrun.counted_eq, ← hkeys, Graph.newest]
  refine (rtake_filter fun i hi => ?_).symm
  exact decide_eq_true (hnews i hi)

end Scrollback.Session
