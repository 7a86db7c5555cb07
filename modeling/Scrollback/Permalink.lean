import Scrollback.Message.Index
import Scrollback.Url.Reference
/-!
# Permalinks

A permalink leads to a message of a channel: its path names the channel and its query the
message, `/chat/general?msg=42`. A reader of links looks at the query only.

## Main definitions

* `Permalink.render` — the link to a message.
* `Permalink.target?` — the message that a link leads to.
-/

namespace Scrollback.Permalink

/-- The name of the pair that gives the index. -/
def parameter : List Char := "msg".toList

/-- The query that a link leads with: links without a scheme belong to this client. -/
def query? (link : List Char) : Option (List Char) :=
  match Url.read link with
  | .whole query => query
  | .malformed => none
  | .relative =>
    match Url.readRelative link with
    | .whole query => query
    | _ => none

/-- The message that a link leads to. -/
def target? (link : String) : Option MessageIndex := do
  let query ← query? (Text.trim link.toList)
  let value ← Url.lookup? parameter query
  (MessageIndex.parse (String.ofList value)).toOption

/-- The path to a channel. Names that mean a place relative to the path lead there instead. -/
def path (channel : String) : List Char :=
  if channel = "." ∨ channel = ".." then "/chat".toList
  else
    let name := channel.toList.filter (!Url.isLineBreak ·)
    if name = "..".toList then "/".toList
    else if name = ".".toList then "/chat/".toList
    else "/chat/".toList ++ Url.percentEncode Url.isEncodedInSegment name

/-- The link to a message of a channel. -/
def render (channel : String) (index : MessageIndex) : String :=
  String.ofList (path channel ++ '?' :: parameter ++ '=' :: Text.digits index.seq)

end Scrollback.Permalink
