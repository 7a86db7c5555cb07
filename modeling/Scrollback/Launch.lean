import Scrollback.History
import Scrollback.LogFilter
import Scrollback.Options.Reader
import Scrollback.Permalink
import Scrollback.Session.Clock
/-!
# Starting the program

A start reads the command line, opens the log if there is to be one, gets the channel's history
and loads the first page. Each of these can end it, with a line for the reader and an exit code.

## Main definitions

* `Session.ofOptions` — the session that options ask for.
* `StartError` — why there is no session.
* `Environment` — what a start needs from outside.
* `launch` — the whole start.
-/

namespace Scrollback

/-! ## Opening a channel -/

/-- Why a channel could not be opened. -/
inductive StartError where
  /-- The history could not be loaded. -/
  | historyUnreadable (cause : HistoryError)
  /-- The permalink names no message. -/
  | invalidPermalink
  /-- The history is empty. -/
  | channelNotFound
deriving DecidableEq, Repr

namespace StartError

/-- The exit code of the program. -/
def exitCode : StartError → Nat
  | historyUnreadable _ => 20
  | invalidPermalink => 21
  | channelNotFound => 22

/-- The error in short. -/
def summary : StartError → String
  | historyUnreadable _ => "Message history could not be loaded"
  | invalidPermalink => "Permalink does not name a message"
  | channelNotFound => "Channel not found"

/-- What the reader is told. -/
def message : StartError → String
  | historyUnreadable _ =>
    "Message history could not be read. Check the --history path and JSON format."
  | invalidPermalink =>
    "The permalink has no `msg` parameter. Expected something like `/chat/general?msg=42`."
  | channelNotFound => "The requested channel has no messages to show."

end StartError

namespace Options

/-- How the feed is to behave. A page holds one message at least, and zero makes no request
fail. -/
def feedConfig (o : Options) : FeedConfig where
  pageSize := max o.pageSize 1
  latency := o.latency
  failEvery := o.failEvery.filter (0 < ·)
  timeout := o.timeout

/-- The message to open at. -/
def target (o : Options) : Except StartError (Option MessageIndex) :=
  match o.permalink with
  | some link => (Permalink.target? link).elim (.error .invalidPermalink) (.ok ∘ some)
  | none => .ok o.scrollTo

end Options

namespace Session

/-- The history of the channel: read from a file if the options name one, else made up. A file
has to hold a message. -/
def history (o : Options) (file : Except FileError ByteArray) (now : Instant) :
    Checked (Except StartError Graph) :=
  if o.history.isSome then
    .ok (match History.ofFile file with
      | .ok g => if g.isEmpty then .error .channelNotFound else .ok g
      | .error e => .error (.historyUnreadable e))
  else (History.synthetic o.messages o.feedConfig.identity now).map .ok

/-- A session over a history, with the page around the target loaded, or else the newest page. -/
def ofHistory (o : Options) (remote : Graph) (target : Option MessageIndex) (now : Instant) :
    Checked Session := do
  let feed : Feed := { remote, config := o.feedConfig }
  let (feed, _) ← target.elim (.ok feed.loadLatest) feed.loadAround
  return {
    channel := o.channel
    feed
    window := { target }
    unread := o.unread
    incomingEvery := o.incomingEvery.filter (0 < ·)
    opened := now }

/-- The session that options ask for. The history is looked at before the permalink. -/
def ofOptions (o : Options) (file : Except FileError ByteArray) (now : Instant) :
    Checked (Except StartError Session) := do
  match ← history o file now with
  | .error e => return .error e
  | .ok remote =>
    match o.target with
    | .error e => return .error e
    | .ok target => return .ok (← ofHistory o remote target now)

end Session

/-! ## The start -/

/-- What a start needs from outside. -/
structure Environment (m : Type → Type) where
  /-- Reads a file. -/
  contents : String → m (Except FileError ByteArray)
  /-- Opens a file for diagnostics, for adding to what it holds or for replacing it. -/
  openLog : String → Bool → m (Except FileError Unit)
  /-- Adds a line to the log that was opened. -/
  writeLog : String → m Unit
  /-- The filter for diagnostics that the reader's environment sets. -/
  defaultFilter : m (Option String)
  /-- The time of day. -/
  now : m Instant

/-- Why the program ends before it has begun. -/
inductive LaunchError where
  | usage (cause : UsageError)
  | filter (text : String) (cause : FilterError)
  | log (path : String) (cause : FileError)
  | start (cause : StartError)
  | fault (cause : Fault)
deriving DecidableEq, Repr

namespace LaunchError

/-- The exit code: asking for help is no failure. -/
def exitCode : LaunchError → Nat
  | usage .helpRequested => 0
  | usage _ => 2
  | filter _ _ | log _ _ => 1
  | start cause => cause.exitCode
  | fault _ => 101

/-- What the reader is told. -/
def message : LaunchError → String
  | usage cause => cause.message
  | filter text cause => "invalid tracing filter `" ++ text ++ "`: " ++ cause.message
  | log path cause => "failed to open log file " ++ path ++ ": " ++ cause.message
  | start cause => cause.message
  | fault cause => cause.message

end LaunchError

/-- How a start went. -/
structure Launch where
  /-- What the reader is told on the way. -/
  hints : List String
  /-- The session, or why there is none. -/
  outcome : Except LaunchError Session

/-- Told to a reader who sets a filter but no log file. -/
def filterWithoutLog : String :=
  "RUST_LOG is set, but tracing is disabled without --log-file <PATH>. " ++
    "Use --log-file to enable diagnostics."

/-- The filter when none is set. -/
def standardFilter : String := "info"

/-- What the log begins with, if its filter lets it through. -/
def openingEntry : String := "tracing enabled"

/-- The target that the log's first entry belongs to. -/
def openingTarget : String := "diagnostics"

/-- The fields of the log's first entry. -/
def openingFields : List String := ["message", "version", "log_file", "log_filter", "channel"]

section Launch

variable {m : Type → Type} [Monad m] (env : Environment m)

/-- Opens the log if the options name one; else a filter that is set calls for a hint. -/
def openLog (o : Options) : m (Except LaunchError (List String)) := do
  let preset ← env.defaultFilter
  match o.logFile with
  | none => return .ok (if preset.isSome then [filterWithoutLog] else [])
  | some path =>
    let text := (o.logFilter.or preset).getD standardFilter
    match LogFilter.parse text with
    | .error e => return .error (.filter text e)
    | .ok filter =>
      match ← env.openLog path o.logAppend with
      | .error e => return .error (.log path e)
      | .ok () =>
        if LogLevel.info.rank ≤ (filter.levelFor openingTarget openingFields).rank then
          env.writeLog openingEntry
        return .ok []

/-- Opens the session that options ask for, reading the history's file if they name one. -/
def openSession (o : Options) : m (Except LaunchError Session) := do
  let file ← o.history.elim (return .error .notFound) env.contents
  return match Session.ofOptions o file (← env.now) with
    | .ok (.ok s) => .ok s
    | .ok (.error e) => .error (.start e)
    | .error f => .error (.fault f)

/-- The whole start. -/
def launch (args : List String) : m Launch := do
  match Options.read args with
  | .error e => return ⟨[], .error (.usage e)⟩
  | .ok o =>
    match ← openLog env o with
    | .error e => return ⟨[], .error e⟩
    | .ok hints => return ⟨hints, ← openSession env o⟩

end Launch

end Scrollback
