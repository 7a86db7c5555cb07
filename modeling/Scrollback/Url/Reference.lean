import Scrollback.Url.Address
import Scrollback.Url.HostName
/-!
# References

A link is either a whole reference with a scheme or one relative to a base. This module checks a
link as far as it can fail, which is in its authority, and finds its query; paths cannot fail and
are passed over.

## Main definitions

* `Url.Scheme` — schemes whose links are read in their own way.
* `Url.Link` — how a link is to be taken.
* `Url.read` — a link without a base.
* `Url.readRelative` — the rest of a relative link.
-/

namespace Scrollback.Url

/-- How a link is taken. -/
inductive Link where
  /-- It has no scheme and needs a base. -/
  | relative
  /-- Its authority is malformed. -/
  | malformed
  /-- It can be followed, with this query. -/
  | whole (query : Option (List Char))
deriving DecidableEq

/-- Schemes by the way in which their links are read. -/
inductive Scheme where
  /-- The schemes of the web, which always name a host. -/
  | web
  /-- Local files. -/
  | file
  /-- All others. -/
  | other
deriving DecidableEq, Repr

/-- The way in which links of a named scheme are read. -/
def Scheme.ofName (name : List Char) : Scheme :=
  if name ∈ ["http".toList, "https".toList, "ws".toList, "wss".toList, "ftp".toList] then .web
  else if name = "file".toList then .file
  else .other

/-- A backslash separates like a slash. -/
def Scheme.isSpecial : Scheme → Bool
  | .other => false
  | _ => true

/-! ## Cleaning -/

/-- Controls and the blank, which are dropped around a link. -/
def isControlOrSpace (c : Char) : Bool := c.toNat ≤ 0x20

/-- Tabs and line ends, which are dropped within a link. -/
def isLineBreak (c : Char) : Bool := c == '\t' || c == '\n' || c == '\r'

/-- A link without what is dropped around it and within it. -/
def clean (cs : List Char) : List Char :=
  (((cs.dropWhile isControlOrSpace).reverse.dropWhile isControlOrSpace).reverse).filter
    (!isLineBreak ·)

/-! ## The parts of a link -/

/-- An ASCII letter. -/
def isLetter (c : Char) : Bool := ('a' ≤ c && c ≤ 'z') || ('A' ≤ c && c ≤ 'Z')

/-- A character that may stand within the name of a scheme. -/
def isSchemeChar (c : Char) : Bool :=
  isLetter c || ('0' ≤ c && c ≤ '9') || c == '+' || c == '-' || c == '.'

/-- The name of the scheme in lower case, and what follows the colon. -/
def scheme? (cs : List Char) : Option (List Char × List Char) :=
  match cs.dropWhile isSchemeChar with
  | ':' :: rest =>
    if cs.head?.any isLetter then some ((cs.takeWhile isSchemeChar).map Char.toLower, rest)
    else none
  | _ => none

/-- What follows the path: the query up to the fragment, if there is one. -/
def queryAfterPath (cs : List Char) : Option (List Char) :=
  match cs.dropWhile fun c => c ≠ '?' && c ≠ '#' with
  | '?' :: rest => some (rest.takeWhile (· ≠ '#'))
  | _ => none

/-- A slash, of either kind. -/
def isSlash (c : Char) : Bool := c == '/' || c == '\\'

/-- The character ends an authority. -/
def endsAuthority (special : Bool) (c : Char) : Bool :=
  c == '/' || c == '?' || c == '#' || (special && c == '\\')

/-! ## Hosts -/

/-- What stands between the brackets of a host in brackets. -/
def bracketed? : List Char → Option (List Char)
  | '[' :: rest => some rest
  | _ => none

/-- The text within brackets is an address. -/
def isBracketedAddress (inner : List Char) : Bool :=
  inner.getLast? == some ']' && isIpv6 inner.dropLast

/-- A host of the web: an address in brackets, a dotted address or a name. -/
def isWebHost (host : List Char) : Bool :=
  match bracketed? host with
  | some inner => isBracketedAddress inner
  | none =>
    match HostName.normalize? (Text.ofUtf8Lossy (percentDecode (Text.utf8Bytes host))) with
    | none => false
    | some name => !name.isEmpty && (!endsInNumber name || (ipv4? name).isSome)

/-- A host of another scheme: an address in brackets, or any text without delimiters. -/
def isOpaqueHost (host : List Char) : Bool :=
  match bracketed? host with
  | some inner => isBracketedAddress inner
  | none => host.all fun c =>
      !(c.toNat == 0 || isLineBreak c ||
        c ∈ [' ', '#', '/', ':', '<', '>', '?', '@', '[', '\\', ']', '^', '|'])

/-- A host and what follows it: a colon ends it, except within brackets. -/
def splitHost (special inside : Bool) : List Char → List Char × List Char
  | [] => ([], [])
  | c :: rest =>
    if (c == ':' && !inside) || endsAuthority special c then ([], c :: rest)
    else
      let inside := if c == '[' then true else if c == ']' then false else inside
      let (host, rest) := splitHost special inside rest
      (c :: host, rest)

/-- Passes over the number behind a host, which may be empty; none if it has not 16 bits. -/
def afterHostNumber? (number : Nat) : List Char → Option (List Char)
  | [] => some []
  | c :: rest =>
    match Text.digit? c with
    | some d =>
      if number * 10 + d < 0x10000 then afterHostNumber? (number * 10 + d) rest else none
    | none => if isSlash c || c == '?' || c == '#' then some (c :: rest) else none

/-! ## Authorities -/

/-- What stands before the last `@` of an authority, if there is one, and what stands after. -/
def splitUser (special : Bool) (cs : List Char) : Option (List Char) × List Char :=
  let authority := cs.takeWhile (!endsAuthority special ·)
  let after := authority.reverse.takeWhile (· ≠ '@')
  if after.length = authority.length then (none, cs)
  else
    let length := authority.length - after.length - 1
    (some (cs.take length), cs.drop (length + 1))

/-- A user part that leaves something to name a user by. -/
def namesUser (user : List Char) : Bool := !user.isEmpty && user ≠ [':']

/-- Reads on after the slashes in front of an authority. -/
def readAuthority (scheme : Scheme) (cs : List Char) : Link :=
  let special := scheme.isSpecial
  let (user, rest) := splitUser special cs
  let (host, rest') := splitHost special false rest
  let afterHost : Option (List Char) :=
    match rest' with
    | ':' :: number => afterHostNumber? 0 number
    | _ => some rest'
  let emptyFits :=
    !special && !(user.any namesUser) && rest'.head? != some ':' &&
      !(user == some [] && rest.head?.any (endsAuthority special))
  if host.isEmpty then
    if emptyFits then .whole (queryAfterPath rest') else .malformed
  else if (if special then isWebHost host else isOpaqueHost host) then
    match afterHost with
    | some rest => .whole (queryAfterPath rest)
    | none => .malformed
  else .malformed

/-- A drive letter, which is no host. -/
def isDrive : List Char → Bool
  | [a, b] => isLetter a && (b == ':' || b == '|')
  | _ => false

/-- Reads on after the colon of a file link. -/
def readFile (cs : List Char) : Link :=
  match cs with
  | a :: b :: rest =>
    if isSlash a && isSlash b then
      let host := rest.takeWhile fun c => !isSlash c && c ≠ '?' && c ≠ '#'
      if host.isEmpty || isDrive host || isWebHost host then .whole (queryAfterPath rest)
      else .malformed
    else .whole (queryAfterPath cs)
  | _ => .whole (queryAfterPath cs)

/-! ## Links -/

/-- A link without a base. -/
def read (cs : List Char) : Link :=
  match scheme? (clean cs) with
  | none => .relative
  | some (name, rest) =>
    match Scheme.ofName name with
    | .file => readFile rest
    | .web => readAuthority .web (rest.dropWhile isSlash)
    | .other =>
      match rest with
      | '/' :: '/' :: rest => readAuthority .other rest
      | _ => .whole (queryAfterPath rest)

/-- A link without a scheme, relative to a base of a scheme that is not of the web. Two slashes
of either kind begin an authority. -/
def readRelative (cs : List Char) : Link :=
  match clean cs with
  | '/' :: '/' :: rest => readAuthority .other rest
  | a :: b :: rest =>
    if isSlash a && isSlash b then readAuthority .other (rest.dropWhile isSlash)
    else .whole (queryAfterPath (a :: b :: rest))
  | cs => .whole (queryAfterPath cs)

end Scrollback.Url
