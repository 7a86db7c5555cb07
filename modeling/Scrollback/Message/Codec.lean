import Scrollback.Json.Reader
import Scrollback.Message.Basic
import Scrollback.Time.Stamp
/-!
# Messages as JSON

A node is an object whose `kind` tells a post from the trace of a deleted one; the fields of a
post stand beside it. Unknown fields are passed over, a known field may stand once. A node may
also be given as an array that begins with its kind, the fields following in order.

## Main definitions

* `Node.toJson`, `Node.ofJson?` — a node.
* `Node.render`, `Node.read?` — its written form.
* `Entry.ofJson?` — a node with its index in the same object.
-/

namespace Scrollback

/-! ## Writing -/

/-- A part of content, as an object of one member. -/
def Content.toJson : Content → Json
  | .text s => .object [("text", .string s)]
  | .url s => .object [("url", .string s)]
  | .code s => .object [("code", .string s)]
  | .mention s => .object [("mention", .string s)]

/-- The fields of a message. -/
def Message.members (m : Message) : List (String × Json) :=
  [("author", .string m.author),
    ("contents", .array (m.contents.map Content.toJson)),
    ("time_sent", .string m.sentAt.render),
    ("pending", .bool m.pending)]

/-- A message without its kind. -/
def Message.toJson (m : Message) : Json := .object m.members

/-- A node. -/
def Node.toJson : Node → Json
  | .post m => .object (("kind", .string "post") :: m.members)
  | .deleted => .object [("kind", .string "deleted")]

/-- The written form of a node. -/
def Node.render (n : Node) : String := n.toJson.render

/-! ## Reading -/

namespace Json

/-- The string that a value is. -/
def string? : Json → Option String
  | .string s => some s
  | _ => none

/-- The truth value that a value is. -/
def bool? : Json → Option Bool
  | .bool b => some b
  | _ => none

/-- The items of an array. -/
def items? : Json → Option (List Json)
  | .array items => some items
  | _ => none

/-- The value of a member that has to stand exactly once. -/
def required? (name : String) (members : List (String × Json)) : Option Json :=
  match valuesOf name members with
  | [v] => some v
  | _ => none

end Json

/-- A part of content: an object of one member. -/
def Content.ofJson? : Json → Option Content
  | .object [(name, .string s)] =>
    if name = "text" then some (.text s)
    else if name = "url" then some (.url s)
    else if name = "code" then some (.code s)
    else if name = "mention" then some (.mention s)
    else none
  | _ => none

/-- A message whose four fields are given; a message is not pending unless it says so. -/
def Message.ofFields? (author contents sentAt : Json) (pending : Option Json) : Option Message := do
  let author ← author.string?
  let parts ← contents.items?
  let contents ← parts.mapM Content.ofJson?
  let sentAt ← Instant.read? (← sentAt.string?)
  let pending ← match pending with
    | some v => v.bool?
    | none => some false
  return ⟨author, contents, sentAt, pending⟩

/-- A message among the members of an object. -/
def Message.ofMembers? (members : List (String × Json)) : Option Message := do
  let author ← Json.required? "author" members
  let contents ← Json.required? "contents" members
  let sentAt ← Json.required? "time_sent" members
  match Json.valuesOf "pending" members with
  | [] => Message.ofFields? author contents sentAt none
  | [v] => Message.ofFields? author contents sentAt (some v)
  | _ => none

/-- A message as the items of an array. -/
def Message.ofItems? : List Json → Option Message
  | [author, contents, sentAt] => Message.ofFields? author contents sentAt none
  | [author, contents, sentAt, pending] => Message.ofFields? author contents sentAt (some pending)
  | _ => none

/-- The two kinds of node. -/
inductive NodeKind where
  | post
  | deleted
deriving DecidableEq, Repr

/-- A kind by its name. -/
def NodeKind.ofName? : Json → Option NodeKind
  | .string s =>
    if s = "post" then some .post else if s = "deleted" then some .deleted else none
  | _ => none

/-- A kind by its name or by its number. -/
def NodeKind.ofNameOrNumber? : Json → Option NodeKind
  | .natural n => if n = 0 then some .post else if n = 1 then some .deleted else none
  | v => ofName? v

/-- A node of a kind, among the members of an object. -/
def Node.ofMembers? (kind : NodeKind) (members : List (String × Json)) : Option Node :=
  match kind with
  | .post => (Message.ofMembers? members).map .post
  | .deleted => some .deleted

/-- A node of a kind, as the items of an array. -/
def Node.ofItems? (kind : NodeKind) (items : List Json) : Option Node :=
  match kind with
  | .post => (Message.ofItems? items).map .post
  | .deleted => if items.isEmpty then some .deleted else none

/-- A node. -/
def Node.ofJson? : Json → Option Node
  | .object members => do
    let kind ← NodeKind.ofName? (← Json.required? "kind" members)
    Node.ofMembers? kind members
  | .array (kind :: items) => do
    let kind ← NodeKind.ofName? kind
    Node.ofItems? kind items
  | _ => none

/-- The node that a text writes. -/
def Node.read? (s : String) : Option Node := (Json.read? s).bind Node.ofJson?

/-- An entry: an object with an index and the fields of a node. Here the kind may also be given
by its number. -/
def Entry.ofMembers? (members : List (String × Json)) : Option (MessageIndex × Node) := do
  let index ← match ← Json.required? "index" members with
    | .natural n => MessageIndex.ofNat? n
    | _ => none
  let kind ← NodeKind.ofNameOrNumber? (← Json.required? "kind" members)
  let node ← Node.ofMembers? kind members
  return (index, node)

/-- An entry of a history. -/
def Entry.ofJson? : Json → Option (MessageIndex × Node)
  | .object members => Entry.ofMembers? members
  | _ => none

end Scrollback
