import Scrollback.Message.Index
/-!
# Options

What can be chosen when the program is started, and how each choice is spelled and read.

## Main definitions

* `Options` — the choices, with their defaults.
* `OptionName` — the options that take a value.
* `UsageError` — why a command line is refused.
* `Options.set` — an option is given its value.
-/

namespace Scrollback

/-- The choices made on the command line. -/
structure Options where
  /-- The name of the channel. -/
  channel : String := "general"
  /-- The file that holds the channel's history. -/
  history : Option String := none
  /-- How many messages a made-up history has. -/
  messages : Nat := 500
  /-- Messages in a page. -/
  pageSize : Nat := 50
  /-- Unread messages at the start. -/
  unread : Nat := 0
  /-- A link to the message to open at. -/
  permalink : Option String := none
  /-- The message to open at. -/
  scrollTo : Option MessageIndex := none
  /-- Milliseconds until a request is answered. -/
  latency : Nat := 250
  /-- Milliseconds between messages of the subscription. -/
  incomingEvery : Option Nat := none
  /-- Milliseconds after which a request is given up. -/
  timeout : Option Nat := none
  /-- Every request whose number this divides fails. -/
  failEvery : Option Nat := none
  /-- The file that takes diagnostics. -/
  logFile : Option String := none
  /-- Which diagnostics are written. -/
  logFilter : Option String := none
  /-- Diagnostics are added to the file instead of replacing what it holds. -/
  logAppend : Bool := false
deriving DecidableEq, Repr

/-- The options that take a value. -/
inductive OptionName where
  | channel
  | history
  | messages
  | pageSize
  | unread
  | permalink
  | scrollTo
  | latency
  | incomingEvery
  | timeout
  | failEvery
  | logFile
  | logFilter
deriving DecidableEq, Repr

namespace OptionName

/-- All options that take a value. -/
def all : List OptionName :=
  [channel, history, messages, pageSize, unread, permalink, scrollTo, latency, incomingEvery,
    timeout, failEvery, logFile, logFilter]

/-- How the option is written, after two dashes. -/
def spelling : OptionName → String
  | channel => "channel"
  | history => "history"
  | messages => "messages"
  | pageSize => "page-size"
  | unread => "unread"
  | permalink => "permalink"
  | scrollTo => "scroll-to"
  | latency => "latency-ms"
  | incomingEvery => "incoming-every-ms"
  | timeout => "timeout-ms"
  | failEvery => "fail-every"
  | logFile => "log-file"
  | logFilter => "log-filter"

/-- The option that is written so; options are not abbreviated. -/
def ofSpelling? (s : String) : Option OptionName :=
  all.find? (·.spelling == s)

end OptionName

/-- Why a command line does not start the program. -/
inductive UsageError where
  /-- An argument is no option, or stands where none may stand. -/
  | unknownArgument
  /-- An option lacks its value, or a path is empty. -/
  | missingValue
  /-- A value cannot be read. -/
  | malformedValue
  /-- A flag was given a value. -/
  | unexpectedValue
  /-- An option was given twice, or two options exclude each other. -/
  | conflict
  /-- Help was asked for. -/
  | helpRequested
deriving DecidableEq, Repr

/-- What the reader is told about a command line that is refused. -/
def UsageError.message : UsageError → String
  | unknownArgument => "unknown argument"
  | missingValue => "an option lacks its value"
  | malformedValue => "a value cannot be read"
  | unexpectedValue => "a flag takes no value"
  | conflict => "options exclude each other or are repeated"
  | helpRequested =>
    "Options: --log-append --help " ++
      " ".intercalate (OptionName.all.map fun o => "--" ++ o.spelling ++ " <VALUE>")

namespace Options

/-- A count: a plain number with an optional plus. -/
def count? (value : String) : Option Nat :=
  (MessageIndex.readNumber value.toList).toOption

/-- The first number that `--fail-every` does not take. -/
def failEveryBound : Nat := 0x100000000

/-- The value of `--fail-every`: a number of 32 bits, where zero may carry a minus. -/
def failEvery? (value : String) : Option Nat :=
  match value.toList with
  | '-' :: zeros => if zeros ≠ [] ∧ zeros.all (· == '0') then some 0 else none
  | _ => (count? value).filter (· < failEveryBound)

/-- A path: anything but nothing. -/
def path (value : String) : Except UsageError String :=
  if value.isEmpty then .error .missingValue else .ok value

/-- A value that was read, if it could be. -/
def readable {α : Type} : Option α → Except UsageError α
  | some a => .ok a
  | none => .error .malformedValue

/-- An option is given its value. -/
def set (o : Options) (value : String) : OptionName → Except UsageError Options
  | .channel => .ok { o with channel := value }
  | .history => do return { o with history := some (← path value) }
  | .messages => do return { o with messages := ← readable (count? value) }
  | .pageSize => do return { o with pageSize := ← readable (count? value) }
  | .unread => do return { o with unread := ← readable (count? value) }
  | .permalink => .ok { o with permalink := some value }
  | .scrollTo => do
    return { o with scrollTo := some (← readable (MessageIndex.parse value).toOption) }
  | .latency => do return { o with latency := ← readable (count? value) }
  | .incomingEvery => do return { o with incomingEvery := some (← readable (count? value)) }
  | .timeout => do return { o with timeout := some (← readable (count? value)) }
  | .failEvery => do return { o with failEvery := some (← readable (failEvery? value)) }
  | .logFile => do return { o with logFile := some (← path value) }
  | .logFilter => .ok { o with logFilter := some value }

/-- The two ways to choose the message to open at exclude each other. -/
def opensTwice (o : Options) : Bool :=
  o.permalink.isSome && o.scrollTo.isSome

end Options

end Scrollback
