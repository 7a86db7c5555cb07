import Scrollback.FileError
import Scrollback.Graph
import Scrollback.Json.Reader
import Scrollback.Message.Codec
/-!
# Channel histories

The history of a channel is all that the server holds of it. It is read from a JSON array of
entries in any order, or made up for a demonstration.

## Main definitions

* `History.load` — the history that a text holds.
* `History.ofFile` — the history in a file that may be missing or hold no text.
* `History.synthetic` — a made-up history of a given length.
-/

namespace Scrollback

/-- Why there is no history. -/
inductive HistoryError where
  /-- The file could not be read. -/
  | unreadable (cause : FileError)
  /-- The file's bytes are not text. -/
  | notText
  /-- The text is no array of entries. -/
  | malformed
  /-- Two entries have one index. -/
  | duplicate (index : MessageIndex)
deriving DecidableEq, Repr

/-- The wording of a history error. -/
def HistoryError.message : HistoryError → String
  | .unreadable cause => "failed to read history file: " ++ cause.message
  | .notText => "failed to read history file: stream did not contain valid UTF-8"
  | .malformed => "invalid history JSON"
  | .duplicate index => "duplicate message index " ++ toString index

namespace History

/-! ## Loading -/

/-- Collects entries, stopping at the first whose index has occurred before. -/
def collect (g : Graph) : List (MessageIndex × Node) → Except HistoryError Graph
  | [] => .ok g
  | (i, n) :: rest => if g.contains i then .error (.duplicate i) else collect (g.insert i n) rest

/-- The entries that a text holds. -/
def entries? (text : String) : Option (List (MessageIndex × Node)) := do
  let items ← (← Json.read? text).items?
  items.mapM Entry.ofJson?

/-- The history that a text holds. -/
def load (text : String) : Except HistoryError Graph :=
  match entries? text with
  | some es => collect Graph.empty es
  | none => .error .malformed

/-- The history in a file, given what reading the file's bytes came to. -/
def ofFile : Except FileError ByteArray → Except HistoryError Graph
  | .error e => .error (.unreadable e)
  | .ok bytes =>
    match String.fromUTF8? bytes with
    | some text => load text
    | none => .error .notText

/-! ## Making one up -/

/-- Who writes in a made-up channel. -/
def authors : List String := ["zod", "nec", "bus", "wes", "sev", "per"]

/-- What is written in a made-up channel. -/
def lines : List String :=
  ["morning all", "has anyone tried the new build?", "pushed a fix for the sync stall",
    "looks good to me", "can we move standup to 10?", "reading through the design doc now",
    "the relay was down for a few minutes", "ack", "will review after lunch",
    "that is exactly the edge case I hit yesterday"]

/-- Minutes between two messages. -/
def spacing : Nat := 37

/-- Every message whose number this divides was deleted. -/
def deletedEvery : Nat := 47

/-- Every message whose number this divides mentions the reader. -/
def mentionEvery : Nat := 29

/-- The message of a number in a made-up channel of `count` messages that ends at `now`. -/
def syntheticNode (count : Nat) (identity : String) (now : Instant) (seq : Nat) : Node :=
  if seq % deletedEvery = 0 then .deleted
  else
    let author := authors.getD (seq / 3 % authors.length) ""
    let line := lines.getD (seq * 7 % lines.length) ""
    let mention :=
      if seq % mentionEvery = 0 ∧ author ≠ identity then
        [Content.text " cc ", Content.mention identity]
      else []
    .post ⟨author, .text line :: mention, now.subMinutes ((count - seq) * spacing), false⟩

/-- More messages than this cannot be held. -/
def messageLimit : Nat := 0x7fffffffffffffff / 72

/-- A made-up history of `count` messages that ends at `now`; the messages are numbered from one
and `identity` is the reader's name. -/
def synthetic (count : Nat) (identity : String) (now : Instant) : Checked Graph :=
  if messageLimit < count then .error .capacityOverflow
  else if now.reachesBack ((count - 1) * spacing) then
    .ok
      { entries := (List.range' 1 count).filterMap fun seq =>
          (MessageIndex.ofNat? seq).map fun i => ⟨i, syntheticNode count identity now seq⟩
        sorted := by
          refine List.pairwise_filterMap.2 (List.Pairwise.imp ?_ List.pairwise_lt_range')
          intro a b hab x hx y hy
          simp only [MessageIndex.ofNat?, Option.map_eq_some_iff] at hx hy
          obtain ⟨i, hi, rfl⟩ := hx
          obtain ⟨j, hj, rfl⟩ := hy
          split at hi
          · split at hj
            · cases hi; cases hj; exact hab
            · cases hj
          · cases hi }
  else .error .instantUnderflow

end History

end Scrollback
