/-!
# Page requests

A channel is loaded in pages, toward older and toward newer messages. A request either tells
whether there is more in its direction, or fails.

## Main definitions

* `Direction` — the two ways a page can be asked for.
* `FetchOutcome` — what a page says about the rest of its direction.
* `FetchError` — why a request failed.
* `FetchResult` — how a request settles.
-/

namespace Scrollback

/-- The way in which a page continues the loaded messages. -/
inductive Direction where
  | older
  | newer
deriving DecidableEq, Repr

/-- The word for a direction. -/
def Direction.label : Direction → String
  | .older => "older"
  | .newer => "newer"

/-- The direction leads toward the newest message. -/
def Direction.isNewer : Direction → Bool
  | .older => false
  | .newer => true

/-- What a page says about the rest of its direction. -/
inductive FetchOutcome where
  /-- There is more to load. -/
  | more
  /-- Nothing is left to load. -/
  | exhausted
deriving DecidableEq, Repr

/-- Why a request failed. -/
inductive FetchError where
  /-- The server could not be reached. -/
  | unavailable (reason : String)
  /-- The answer took too long. -/
  | timeout
  /-- The channel holds nothing. -/
  | channelNotFound
deriving DecidableEq, Repr

/-- The wording of a failure. -/
def FetchError.message : FetchError → String
  | .unavailable reason => "backend unavailable: " ++ reason
  | .timeout => "page request timed out"
  | .channelNotFound => "channel not found"

/-- How a request settles. -/
inductive FetchResult where
  /-- A page was loaded. -/
  | loaded (outcome : FetchOutcome)
  /-- No page was loaded. -/
  | failed (error : FetchError)
deriving DecidableEq, Repr

/-- A page was loaded. -/
def FetchResult.isLoaded : FetchResult → Bool
  | .loaded _ => true
  | .failed _ => false

end Scrollback
