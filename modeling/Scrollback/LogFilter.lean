import Scrollback.LogFilter.Pattern
import Scrollback.Message.Index
/-!
# Log filters

A log filter chooses the diagnostics that are written. It is a list of directives with commas
between them. A directive names a target, a span in brackets with a field in braces, or both,
and behind `=` the least level that is written: `info,scrollback[load{page}]=trace`.

## Main definitions

* `LogLevel` — how much is written.
* `Directive.parse` — the grammar of one directive.
* `LogFilter.parse` — a whole filter.
* `LogFilter.levelFor` — the level at which a filter writes.
-/

namespace Scrollback

/-- Why a filter is refused. -/
inductive FilterError where
  /-- A directive does not follow the grammar. -/
  | invalidDirective
  /-- What follows the `=` is no level. -/
  | unknownLevel
  /-- What a field is compared with is no pattern. -/
  | invalidField (cause : PatternError)
deriving DecidableEq, Repr

/-- The wording of a filter error. -/
def FilterError.message : FilterError → String
  | .invalidDirective => "invalid filter directive"
  | .unknownLevel =>
    "error parsing level filter: expected one of \"off\", \"error\", \"warn\", \"info\", " ++
      "\"debug\", \"trace\", or a number 0-5"
  | .invalidField cause => "invalid field filter: " ++ cause.message

/-! ## Levels -/

/-- How much is written: everything up to a level. -/
inductive LogLevel where
  | off
  | error
  | warn
  | info
  | debug
  | trace
deriving DecidableEq, Repr

namespace LogLevel

/-- The levels, the quietest first. -/
def all : List LogLevel := [.off, .error, .warn, .info, .debug, .trace]

/-- The name of a level. -/
def name : LogLevel → String
  | .off => "off"
  | .error => "error"
  | .warn => "warn"
  | .info => "info"
  | .debug => "debug"
  | .trace => "trace"

/-- The number of a level. -/
def rank (l : LogLevel) : Nat := all.idxOf l

/-- The level that a text means: its name in any case, or its number. -/
def parse? (cs : List Char) : Option LogLevel :=
  match MessageIndex.readNumber cs with
  | .ok n => all[n]?
  | .error _ => all.find? fun l => l.name == String.ofList (cs.map Char.toLower)

end LogLevel

/-! ## Directives -/

/-- A part of a filter: what it is about, and how much of that is written. -/
structure Directive where
  /-- How the target of an entry begins. -/
  target : Option (List Char) := none
  /-- The span that an entry is made in. -/
  span : Option (List Char) := none
  /-- The field that an entry has. -/
  field : Option (List Char) := none
  /-- The field has to have a certain value. -/
  hasValue : Bool := false
  /-- How much is written. -/
  level : LogLevel := .trace
deriving DecidableEq, Repr

namespace Directive

open Text

/-- A directive may begin with this character. -/
def isStart (c : Char) : Bool :=
  c == '-' || c == ':' || c == '_' || isWordChar c

/-- The digits of a text and what is behind them. -/
def digits (cs : List Char) : List Char × List Char :=
  (cs.takeWhile Char.isDigit, cs.dropWhile Char.isDigit)

/-- The text is an exponent or empty. -/
def isExponent : List Char → Bool
  | [] => true
  | c :: sign :: rest =>
    let number := if sign == '+' || sign == '-' then rest else sign :: rest
    c.toLower == 'e' && !number.isEmpty && number.all Char.isDigit
  | _ => false

/-- The text is a number, with a sign or without. -/
def isNumber (cs : List Char) : Bool :=
  let cs := if cs.head? == some '+' || cs.head? == some '-' then cs.tail else cs
  let (whole, rest) := digits cs
  let (part, rest) := if rest.head? == some '.' then digits rest.tail else ([], rest)
  ["inf", "infinity", "nan"].contains (String.ofList (cs.map Char.toLower)) ||
    (!(whole.isEmpty && part.isEmpty) && isExponent rest)

/-- A field, perhaps with `=` and a value behind it: a number or a pattern. Any further `=` ends
the value. -/
def parseField (d : Directive) (cs : List Char) : Except FilterError Directive :=
  let named := { d with field := some (cs.takeWhile (· ≠ '=')) }
  match cs.dropWhile (· ≠ '=') with
  | [] => .ok named
  | _ :: rest =>
    let value := rest.takeWhile (· ≠ '=')
    match if isNumber value then .ok () else Pattern.check value with
    | .ok () => .ok { named with hasValue := true }
    | .error e => .error (.invalidField e)

/-- Where the directive stands. The blanks before it do not belong to it, but its parts are cut
from the text as it is written, by their places in the directive alone: behind blanks, every cut
begins too early. -/
structure Source where
  /-- The text as it is written. -/
  written : List Char

namespace Source

/-- The directive itself. -/
def body (s : Source) : List Char := trim s.written

/-- The text from where `rest` begins. -/
def cut (s : Source) (rest : List Char) : List Char :=
  s.written.drop (s.body.length - rest.length)

/-- The level behind an `=`; nothing stands for the last level. -/
def level (s : Source) (d : Directive) (rest : List Char) : Except FilterError Directive :=
  let cs := s.cut rest
  if cs.isEmpty then .ok d
  else
    match LogLevel.parse? cs with
    | some l => .ok { d with level := l }
    | none => .error .unknownLevel

/-- What follows a span: nothing, or a level. -/
def afterSpan (s : Source) (d : Directive) : List Char → Except FilterError Directive
  | [] => .ok d
  | '=' :: rest => s.level d rest
  | _ => .error .invalidDirective

/-- The field of a span, behind its brace: something up to the closing brace, and the bracket. -/
def field (s : Source) (d : Directive) (cs : List Char) : Except FilterError Directive :=
  match (cs.takeWhile (· ≠ '}')).length, cs.dropWhile (· ≠ '}') with
  | n + 1, _ :: rest => do
    let d ← d.parseField ((s.cut cs).take (n + 1))
    match rest with
    | ']' :: rest => s.afterSpan d rest
    | _ => .error .invalidDirective
  | _, _ => .error .invalidDirective

/-- A span, behind its bracket. It needs no name if it has a field. -/
def span (s : Source) (d : Directive) (cs : List Char) : Except FilterError Directive :=
  let name := (s.cut cs).take (cs.takeWhile fun c => c ≠ ']' ∧ c ≠ '\x7b').length
  match cs.dropWhile fun c => c ≠ ']' ∧ c ≠ '\x7b' with
  | ']' :: rest => s.afterSpan { d with span := some name } rest
  | _ :: rest => s.field { d with span := if name.isEmpty then none else some name } rest
  | [] => .error .invalidDirective

/-- A target with what follows it. Alone it may be a level as well. -/
def target (s : Source) (cs : List Char) : Except FilterError Directive :=
  let name := (s.cut cs).take (cs.takeWhile fun c => c ≠ '=' ∧ c ≠ '[').length
  match cs.dropWhile fun c => c ≠ '=' ∧ c ≠ '[' with
  | '=' :: rest => s.level { target := some name } rest
  | _ :: rest => s.span { target := some name } rest
  | [] =>
    match LogLevel.parse? (s.cut cs) with
    | some l => .ok { level := l }
    | none => .ok { target := some (s.cut cs) }

end Source

/-- The directive that a text writes. -/
def parse (written : List Char) : Except FilterError Directive :=
  let s : Source := ⟨written⟩
  match s.body with
  | '[' :: rest => s.span {} rest
  | c :: rest => if isStart c then s.target (c :: rest) else .error .invalidDirective
  | [] => .error .invalidDirective

/-- The directive is about the entries with a target and fields, whatever span they are made in. -/
def covers (d : Directive) (target : List Char) (fields : List (List Char)) : Bool :=
  d.span.isNone && !d.hasValue && d.target.all (·.isPrefixOf target) && d.field.all fields.contains

/-- The directive says no less than another one that covers the same entry: its target is longer,
or it names a field, or one that comes later in the alphabet. -/
def sharpens (d e : Directive) : Bool :=
  let length (d : Directive) := (d.target.map (·.length + 1)).getD 0
  length e < length d || (length e == length d &&
    match d.field, e.field with
    | _, none => true
    | none, some _ => false
    | some f, some g => !decide (f < g))

end Directive

/-! ## Filters -/

/-- A filter: its directives, as they are written. -/
abbrev LogFilter := List Directive

namespace LogFilter

/-- The filter that a text writes. Directives may be empty, and then say nothing. -/
def parse (text : String) : Except FilterError LogFilter :=
  ((text.toList.splitOn ',').filter (· ≠ [])).mapM Directive.parse

/-- How much is written of the entries with a target and fields, outside of any span: as much as
the sharpest directive says that covers them, the last of equal ones. A filter that says nothing
lets errors through. -/
def levelFor (f : LogFilter) (target : String) (fields : List String) : LogLevel :=
  let covering := f.filter (·.covers target.toList (fields.map String.toList))
  match covering.foldl (fun best d =>
      match best with
      | some e => if d.sharpens e then some d else some e
      | none => some d) none with
  | some d => d.level
  | none => if f.isEmpty then .error else .off

end LogFilter

end Scrollback
