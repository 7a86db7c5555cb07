import Scrollback.Message.Index
import Scrollback.Time.Instant
/-!
# Messages

A message has an author, parts of content and the time it was sent. A place in the channel holds
a post or, once the post has been deleted, the trace it left.

## Main definitions

* `Content` — one part of a message.
* `Message` — a message, and whether the server still has to acknowledge it.
* `Node` — what a place in the channel holds.
-/

namespace Scrollback

/-- One part of a message. -/
inductive Content where
  | text (body : String)
  | url (target : String)
  | code (source : String)
  | mention (who : String)
deriving DecidableEq, Repr

/-- The part as plain text. -/
def Content.plain : Content → String
  | .text s | .url s | .code s | .mention s => s

/-- A message. -/
@[ext]
structure Message where
  /-- Who wrote it. -/
  author : String
  /-- Its parts, in reading order. -/
  contents : List Content
  /-- When it was sent. -/
  sentAt : Instant
  /-- Sent from here and not yet acknowledged by the server. -/
  pending : Bool
deriving DecidableEq, Repr

namespace Message

/-- A message of one text. -/
def ofText (author text : String) (sentAt : Instant) : Message :=
  ⟨author, [.text text], sentAt, false⟩

/-- The message as it is before its acknowledgement. -/
def asPending (m : Message) : Message :=
  { m with pending := true }

/-- The message as it is after its acknowledgement. -/
def acknowledged (m : Message) : Message :=
  { m with pending := false }

/-- The plain text of all parts, one after the other. -/
def plainText (m : Message) : String :=
  String.join (m.contents.map Content.plain)

/-- Some part of the message mentions `who`. -/
def mentions (m : Message) (who : String) : Bool :=
  m.contents.any fun c => c == .mention who

end Message

/-- What a place in the channel holds. -/
inductive Node where
  /-- A message. -/
  | post (message : Message)
  /-- The trace of a message that was deleted; it keeps its place. -/
  | deleted
deriving DecidableEq, Repr

namespace Node

/-- The message, unless it was deleted. -/
def message? : Node → Option Message
  | .post m => some m
  | .deleted => none

/-- The message was deleted. -/
def isDeleted : Node → Bool
  | .post _ => false
  | .deleted => true

/-- A message that waits for its acknowledgement. -/
def isPending : Node → Bool
  | .post m => m.pending
  | .deleted => false

/-- The node after an acknowledgement. -/
def acknowledged : Node → Node
  | .post m => .post m.acknowledged
  | .deleted => .deleted

end Node

end Scrollback
