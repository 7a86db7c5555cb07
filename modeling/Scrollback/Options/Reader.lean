import Scrollback.Options.Basic
/-!
# Reading the command line

Arguments are read from left to right. An option may carry its value behind `=`, or the value is
the next argument, unless that looks like an option itself. Such an option is *open*: it takes
effect when the next option or the end of the line is reached, so a fault in its value is reported
there, and not at all when the line is refused before.

## Main definitions

* `Argument` — the forms of an argument.
* `CommandLine` — what has been read so far.
* `Options.read` — the options of a whole command line.
-/

namespace Scrollback

/-- The forms of an argument. -/
inductive Argument where
  /-- Two dashes: only plain arguments follow. -/
  | separator
  /-- Two dashes and a name, with whatever follows the first `=`. -/
  | long (name : String) (value : Option String)
  /-- A dash and letters. -/
  | short (first : Char)
  /-- Anything else, a single dash included. -/
  | plain (text : String)
deriving DecidableEq, Repr

/-- Splits a long option at its first `=`. -/
def Argument.ofLong (cs : List Char) : Argument :=
  let name := String.ofList (cs.takeWhile (· ≠ '='))
  match cs.dropWhile (· ≠ '=') with
  | _ :: value => .long name (some (String.ofList value))
  | [] => .long name none

/-- The form of an argument. -/
def Argument.ofString (s : String) : Argument :=
  match s.toList with
  | ['-', '-'] => .separator
  | '-' :: '-' :: cs => .ofLong cs
  | '-' :: c :: _ => .short c
  | _ => .plain s

/-- What has been read of a command line. -/
structure CommandLine where
  /-- The choices that have taken effect. -/
  options : Options := {}
  /-- The options among them that took a value. -/
  given : List OptionName := []
  /-- The option that is open, with its value once it has come. -/
  opened : Option (OptionName × Option String) := none
deriving Repr

namespace CommandLine

/-- The name of the flag that adds to the log file. -/
def appendFlag : String := "log-append"

/-- The name of the flag that asks for help. -/
def helpFlag : String := "help"

/-- An option takes effect. -/
def give (l : CommandLine) (name : OptionName) : Option String → Except UsageError CommandLine
  | none => .error .missingValue
  | some value =>
    if name ∈ l.given then .error .conflict
    else do
      let options ← l.options.set value name
      return { l with options, given := name :: l.given }

/-- The open option takes effect. -/
def close (l : CommandLine) : Except UsageError CommandLine :=
  match l.opened with
  | some (name, value) => { l with opened := none }.give name value
  | none => .ok l

/-- The flag that adds to the log file. -/
def giveAppend (l : CommandLine) : Except UsageError CommandLine :=
  if l.options.logAppend then .error .conflict
  else .ok { l with options.logAppend := true }

/-- A long option. -/
def readLong (l : CommandLine) (name : String) (value : Option String) :
    Except UsageError CommandLine :=
  if name = helpFlag ∨ name = appendFlag then
    if value.isSome then .error .unexpectedValue
    else do
      let l ← l.close
      if name = helpFlag then throw .helpRequested
      l.giveAppend
  else
    match OptionName.ofSpelling? name with
    | none => .error .unknownArgument
    | some option => do
      let l ← l.close
      if value.isSome then l.give option value
      else return { l with opened := some (option, none) }

/-- An argument before any separator. -/
def readArgument (l : CommandLine) : Argument → Except UsageError CommandLine
  | .separator => .ok l
  | .long name value => l.readLong name value
  | .short 'h' => do
    let _ ← l.close
    throw .helpRequested
  | .short _ => .error .unknownArgument
  | .plain text =>
    match l.opened with
    | some (option, none) => .ok { l with opened := some (option, some text) }
    | _ => .error .unknownArgument

/-- Reads the arguments that are left. No argument may follow a separator. -/
def readAll (l : CommandLine) : List String → Except UsageError CommandLine
  | [] => l.close
  | arg :: rest =>
    match Argument.ofString arg with
    | .separator => if rest = [] then l.close else .error .unknownArgument
    | a => do
      let l ← l.readArgument a
      l.readAll rest

end CommandLine

/-- The options of a command line. -/
def Options.read (args : List String) : Except UsageError Options := do
  let l ← CommandLine.readAll {} args
  if l.options.opensTwice then throw .conflict
  return l.options

end Scrollback
