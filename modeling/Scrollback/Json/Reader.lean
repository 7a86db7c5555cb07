import Scrollback.Json.Lexer
/-!
# Reading JSON

A reader takes one token at a time and keeps the open arrays and objects on a stack, whose depth
is limited.

## Main definitions

* `Json.Frame`, `Json.Reader` — what is open and what may come next.
* `Json.Reader.feed` — one token.
* `Json.read?` — the value that a text writes.
-/

namespace Scrollback.Json

/-- An array or object that is open; what it holds so far is kept newest first. -/
inductive Frame where
  /-- An array. -/
  | array (items : List Json)
  /-- An object between two members. -/
  | object (members : List (String × Json))
  /-- An object that waits for the value of a member. -/
  | member (members : List (String × Json)) (name : String)

/-- What may come next. -/
inductive Reader where
  /-- A value. -/
  | value (stack : List Frame)
  /-- A value, or the end of an empty array. -/
  | firstItem (stack : List Frame)
  /-- The name of a member. -/
  | memberName (members : List (String × Json)) (stack : List Frame)
  /-- The name of a member, or the end of an empty object. -/
  | firstMember (stack : List Frame)
  /-- The colon after a name. -/
  | colon (members : List (String × Json)) (name : String) (stack : List Frame)
  /-- A comma, or the end of what is open. -/
  | separator (stack : List Frame)
  /-- Nothing: the value is complete. -/
  | finished (value : Json)

namespace Reader

/-- At most this many arrays and objects may be open. -/
def depthLimit : Nat := 127

/-- Takes note of a complete value. -/
def deliver (v : Json) : List Frame → Reader
  | [] => .finished v
  | .array items :: stack => .separator (.array (v :: items) :: stack)
  | .member members name :: stack => .separator (.object ((name, v) :: members) :: stack)
  | .object members :: stack => .separator (.object members :: stack)

/-- A token at which a value begins. -/
def begin? (stack : List Frame) : Token → Option Reader
  | .null => some (deliver .null stack)
  | .bool b => some (deliver (.bool b) stack)
  | .natural n => some (deliver (.natural n) stack)
  | .real cs => some (deliver (.real cs) stack)
  | .string s => some (deliver (.string s) stack)
  | .openArray =>
    if stack.length < depthLimit then some (.firstItem (.array [] :: stack)) else none
  | .openObject =>
    if stack.length < depthLimit then some (.firstMember stack) else none
  | _ => none

/-- Takes one token. -/
def feed (token : Token) : Reader → Option Reader
  | .value stack => begin? stack token
  | .firstItem stack =>
    match token, stack with
    | .closeArray, .array items :: below => some (deliver (.array items.reverse) below)
    | _, _ => begin? stack token
  | .memberName members stack =>
    match token with
    | .string s => some (.colon members s stack)
    | _ => none
  | .firstMember stack =>
    match token with
    | .string s => some (.colon [] s stack)
    | .closeObject => some (deliver (.object []) stack)
    | _ => none
  | .colon members name stack =>
    match token with
    | .colon => some (.value (.member members name :: stack))
    | _ => none
  | .separator stack =>
    match token, stack with
    | .comma, .array _ :: _ => some (.value stack)
    | .comma, .object members :: below => some (.memberName members below)
    | .closeArray, .array items :: below => some (deliver (.array items.reverse) below)
    | .closeObject, .object members :: below => some (deliver (.object members.reverse) below)
    | _, _ => none
  | .finished _ => none

/-- Takes tokens in turn. -/
def feedAll (r : Reader) (tokens : List Token) : Option Reader :=
  tokens.foldlM (fun r t => r.feed t) r

/-- The value, if it is complete. -/
def result? : Reader → Option Json
  | .finished v => some v
  | _ => none

end Reader

/-- The value that tokens write. -/
def ofTokens? (tokens : List Token) : Option Json :=
  (Reader.feedAll (.value []) tokens).bind Reader.result?

/-- The value that a text writes. -/
def read? (s : String) : Option Json :=
  (lex? s.toList).bind ofTokens?

end Scrollback.Json
