import Scrollback.Url.Percent
/-!
# Query strings

A query is a list of pairs `name=value` joined by `&`, in which blanks are written as `+` and
other characters may be percent encoded.

## Main definitions

* `Url.queryPairs` — the pairs of a query, decoded.
* `Url.lookup?` — the value of the first pair of a name.
-/

namespace Scrollback.Url

/-- The parts of a list between occurrences of an element. -/
def splitOn {α : Type} [DecidableEq α] (sep : α) : List α → List (List α)
  | [] => [[]]
  | a :: rest =>
    if a = sep then [] :: splitOn sep rest
    else match splitOn sep rest with
      | part :: parts => (a :: part) :: parts
      | [] => [[a]]

/-- A name or a value as it is meant. -/
def decodeField (bytes : List UInt8) : List Char :=
  Text.ofUtf8Lossy (percentDecode (bytes.map fun b => if b = 43 then 32 else b))

/-- A pair as it is meant: what stands before the first `=` and what stands after it. -/
def decodePair (bytes : List UInt8) : List Char × List Char :=
  (decodeField (bytes.takeWhile (· ≠ 61)), decodeField ((bytes.dropWhile (· ≠ 61)).drop 1))

/-- The pairs of a query. Nothing between two `&` is no pair. -/
def queryPairs (query : List Char) : List (List Char × List Char) :=
  ((splitOn 38 (Text.utf8Bytes query)).filter (· ≠ [])).map decodePair

/-- The value of the first pair of a name. -/
def lookup? (name : List Char) (query : List Char) : Option (List Char) :=
  ((queryPairs query).find? (·.1 = name)).map Prod.snd

end Scrollback.Url
