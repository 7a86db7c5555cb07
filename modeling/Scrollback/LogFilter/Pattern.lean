import Scrollback.Text.Blank
import Scrollback.Text.WordChar
/-!
# Patterns

A field of a span can be compared with a pattern, a regular expression. Only the grammar matters
here: whether a text is a pattern at all. No knowledge of the letters of the world is at hand, so
that a pattern which asks for letters, digits, blanks or the other case of a letter is refused
unless it keeps to bytes; one that keeps to bytes must not match a part of a character.

## Main definitions

* `Pattern.Mode` — what the flags of a pattern set.
* `Pattern.escape?` — what a backslash stands for.
* `Pattern.Scan.step` — one piece of a pattern.
* `Pattern.check` — a whole pattern.
-/

namespace Scrollback

/-- Why a text cannot be used as a pattern. -/
inductive PatternError where
  /-- It is no pattern, or one that asks for more than is known. -/
  | malformed
  /-- It asks where words begin or end. -/
  | wordBoundary
deriving DecidableEq, Repr

/-- The wording of a pattern error. -/
def PatternError.message : PatternError → String
  | .malformed => "error building NFA"
  | .wordBoundary =>
    "unsupported regex feature for DFAs: cannot build DFAs for regexes with Unicode word " ++
      "boundaries; switch to ASCII word boundaries, or heuristically enable Unicode word " ++
      "boundaries or use a different regex engine"

namespace Pattern

open Text

/-! ## Modes -/

/-- What the flags of a pattern set. -/
structure Mode where
  /-- Upper and lower case are the same. -/
  caseless : Bool := false
  /-- The pattern keeps to bytes. -/
  bytes : Bool := false
  /-- Blanks and comments may stand between the pieces. -/
  spaced : Bool := false
deriving DecidableEq, Repr

/-- Something that stands for a character or for a place. -/
inductive Atom where
  /-- A character, perhaps written as a byte. -/
  | char (c : Char) (asByte : Bool)
  /-- Digits, blanks or word characters, or all but these. -/
  | shorthand (negated : Bool)
  /-- A place where a word begins or ends, or one where none does. -/
  | boundary
  /-- A place in the text. -/
  | place
deriving DecidableEq, Repr

namespace Mode

/-- The mode with a flag set or taken back. -/
def set (m : Mode) (flag : Char) (on : Bool) : Mode :=
  match flag with
  | 'i' => { m with caseless := on }
  | 'u' => { m with bytes := !on }
  | 'x' => { m with spaced := on }
  | _ => m

/-- The other case of any letter would have to be known. -/
def needsCases (m : Mode) : Bool := m.caseless && !m.bytes

/-- The atom may stand in a pattern. -/
def admits (m : Mode) : Atom → Bool
  | .char c asByte => if m.bytes then !asByte || c.toNat < 0x80 else !m.caseless
  | .shorthand negated => m.bytes && !negated
  | .boundary | .place => true

/-- The atom may stand in a class. -/
def admitsInClass (m : Mode) : Atom → Bool
  | .char c _ => if m.bytes then c.toNat < 0x80 else !m.caseless
  | .shorthand negated => m.bytes && !negated
  | .boundary | .place => false

/-- The rest of a pattern from the next piece on; a comment ends with its line. -/
def skip (inComment : Bool) : List Char → List Char
  | [] => []
  | c :: rest =>
    if inComment then skip (c != '\n') rest
    else if isBlank c then skip false rest
    else if c == '#' then skip true rest
    else c :: rest

/-- The rest of a pattern without blanks and comments, where the mode allows them. -/
def rest (m : Mode) (cs : List Char) : List Char := if m.spaced then skip false cs else cs

end Mode

/-! ## Escapes -/

/-- The value of a hexadecimal digit. -/
def hexDigit? (c : Char) : Option Nat :=
  if c.isDigit then some (c.toNat - 0x30)
  else if 'a' ≤ c.toLower && c.toLower ≤ 'f' then some (c.toLower.toNat - 0x57)
  else none

/-- A number of so many hexadecimal digits. -/
def hexNumber? (m : Mode) : Nat → Nat → List Char → Option (Nat × List Char)
  | 0, value, cs => some (value, cs)
  | n + 1, value, cs =>
    match m.rest cs with
    | c :: rest => (hexDigit? c).bind fun d => hexNumber? m n (value * 16 + d) rest
    | [] => none

/-- A character written by its number in so many digits. -/
def numbered? (m : Mode) (digits : Nat) (cs : List Char) : Option (Atom × List Char) := do
  let (n, rest) ← hexNumber? m digits 0 cs
  if n.isValidChar then some (.char (Char.ofNat n) (digits == 2), rest) else none

/-- The characters that are written as a letter. -/
def controls : List (Char × Char) :=
  [('a', '\x07'), ('f', '\x0c'), ('t', '\t'), ('n', '\n'), ('r', '\r'), ('v', '\x0b')]

/-- What follows a backslash. Any sign of ASCII stands for itself; a letter only if it has a
meaning. -/
def escape? (m : Mode) : List Char → Option (Atom × List Char)
  | [] => none
  | c :: rest =>
    if c == 'x' then numbered? m 2 rest
    else if c == 'u' then numbered? m 4 rest
    else if c == 'U' then numbered? m 8 rest
    else if ['d', 's', 'w'].contains c then some (.shorthand false, rest)
    else if ['D', 'S', 'W'].contains c then some (.shorthand true, rest)
    else if ['b', 'B', '<', '>'].contains c then some (.boundary, rest)
    else if ['A', 'z'].contains c then some (.place, rest)
    else
      match controls.lookup c with
      | some d => some (.char d false, rest)
      | none => if c.toNat < 0x80 && !c.isAlphanum then some (.char c false, rest) else none

/-- A character, or what it stands for with the ones behind it. -/
def atom? (m : Mode) : List Char → Option (Atom × List Char)
  | '\\' :: rest => escape? m rest
  | c :: rest => some (.char c false, rest)
  | [] => none

/-! ## Classes -/

/-- The names of the classes of ASCII. -/
def asciiClasses : List String :=
  ["alnum", "alpha", "ascii", "blank", "cntrl", "digit", "graph", "lower", "print", "punct",
    "space", "upper", "word", "xdigit"]

/-- A named class behind its opening bracket, and whether it is negated. -/
def namedClass? : List Char → Option (Bool × List Char)
  | ':' :: cs =>
    let negated := cs.head? == some '^'
    let cs := if negated then cs.tail else cs
    match cs.dropWhile (· ≠ ':') with
    | ':' :: ']' :: rest =>
      if asciiClasses.contains (String.ofList (cs.takeWhile (· ≠ ':'))) then some (negated, rest)
      else none
    | _ => none
  | _ => none

/-- A member of a class: one atom, or all characters between two. A hyphen before the end of the
class or before another hyphen makes no range. -/
def member? (m : Mode) (cs : List Char) : Option (List Char) := do
  let (first, after) ← atom? m cs
  let after := m.rest after
  guard (m.admitsInClass first)
  match after with
  | '-' :: behind =>
    let behind := m.rest behind
    if behind.head? == some ']' || behind.head? == some '-' then return after
    match first, ← atom? m behind with
    | .char c _, (.char d asByte, rest) =>
      guard (m.admitsInClass (.char d asByte) && c ≤ d)
      return rest
    | _, _ => none
  | _ => return after

/-! ## Groups -/

/-- Sets the flags before a colon or a closing bracket: the new mode, whether a group opens, and
the rest. None is set twice, and those behind a hyphen are taken back. -/
def flags? (m : Mode) (seen : List Char) : List Char → Option (Mode × Bool × List Char)
  | [] => none
  | c :: rest =>
    if c == ':' || c == ')' then
      if seen.head? == some '-' || (c == ')' && seen.isEmpty) then none
      else some (m, c == ':', rest)
    else if ['i', 'm', 's', 'U', 'u', 'R', 'x', '-'].contains c && !seen.contains c then
      flags? (m.set c (!seen.contains '-')) (c :: seen) rest
    else none

/-- The name of a group, which ends with an angle bracket. -/
def groupName? (cs : List Char) : Option (List Char × List Char) :=
  match cs.takeWhile (· ≠ '>'), cs.dropWhile (· ≠ '>') with
  | c :: name, _ :: rest =>
    if (c == '_' || (isWordChar c && !c.isDigit)) &&
        name.all (fun d => ['_', '.', '[', ']'].contains d || isWordChar d) then
      some (c :: name, rest)
    else none
  | _, _ => none

/-! ## The scan -/

/-- How far the bracket of a class has been read. -/
inductive ClassStart where
  /-- Nothing was read in it. -/
  | fresh
  /-- Hyphens only, which stand for themselves. -/
  | hyphens
  /-- More than that. -/
  | past
deriving DecidableEq, Repr

/-- A pattern that has been read in part. -/
structure Scan where
  /-- The mode of what follows. -/
  mode : Mode := {}
  /-- The modes around the open groups, the innermost first. -/
  outer : List Mode := []
  /-- The names of groups so far. -/
  names : List (List Char) := []
  /-- How many classes are open. -/
  depth : Nat := 0
  /-- How far the innermost class is read. -/
  classStart : ClassStart := .past
  /-- The last piece can be repeated. -/
  repeatable : Bool := false
  /-- A word boundary was asked for, in any language. -/
  boundary : Bool := false
deriving DecidableEq, Repr

namespace Scan

/-- Opens a group. -/
def enter (s : Scan) (mode : Mode) : Scan :=
  { s with mode, outer := s.mode :: s.outer, repeatable := false }

/-- Opens a group with a name. -/
def enterNamed? (s : Scan) (cs : List Char) : Option (Scan × List Char) := do
  let (name, rest) ← groupName? cs
  guard (!s.names.contains name)
  return ({ s.enter s.mode with names := name :: s.names }, rest)

/-- What follows an opening parenthesis: a group of any kind, or flags for what follows. There is
no looking ahead or back. -/
def group? (s : Scan) (cs : List Char) : Option (Scan × List Char) :=
  match s.mode.rest cs with
  | '?' :: '=' :: _ | '?' :: '!' :: _ | '?' :: '<' :: '=' :: _ | '?' :: '<' :: '!' :: _ => none
  | '?' :: 'P' :: '<' :: rest | '?' :: '<' :: rest => s.enterNamed? rest
  | '?' :: rest =>
    (flags? s.mode [] rest).map fun (mode, opens, rest) =>
      if opens then (s.enter mode, rest) else ({ s with mode, repeatable := false }, rest)
  | rest => some (s.enter s.mode, rest)

/-- What follows the opening bracket of a class. Bytes have no negated classes, since these hold
parts of characters. -/
def openClass? (s : Scan) (cs : List Char) : Option (Scan × List Char) :=
  let opened := { s with depth := s.depth + 1, classStart := .fresh }
  match s.mode.rest cs with
  | '^' :: rest => if s.mode.bytes then none else some (opened, rest)
  | rest => some (opened, rest)

/-- A piece of a class. -/
def classStep (s : Scan) (cs : List Char) : Option (Scan × List Char) :=
  let later := { s with classStart := .past }
  let literal := s.mode.admitsInClass (.char '-' false)
  match s.classStart, cs with
  | .fresh, '-' :: rest | .hyphens, '-' :: rest =>
    if literal then some ({ s with classStart := .hyphens }, rest) else none
  | .fresh, ']' :: rest => if literal then some (later, rest) else none
  | _, '[' :: rest =>
    match namedClass? rest with
    | some (negated, rest) =>
      if s.mode.needsCases || (s.mode.bytes && negated) then none else some (later, rest)
    | none => s.openClass? rest
  | _, ']' :: rest => some ({ later with depth := s.depth - 1, repeatable := true }, rest)
  | _, '&' :: '&' :: rest | _, '-' :: '-' :: rest | _, '~' :: '~' :: rest => some (later, rest)
  | _, cs => (member? s.mode cs).map (later, ·)

/-- A piece outside of classes. Braces never close here, so that a counted repetition fails. -/
def step (s : Scan) : List Char → Option (Scan × List Char)
  | '(' :: rest => s.group? rest
  | ')' :: rest =>
    match s.outer with
    | mode :: outer => some ({ s with mode, outer, repeatable := true }, rest)
    | [] => none
  | '|' :: rest => some ({ s with repeatable := false }, rest)
  | '[' :: rest => s.openClass? rest
  | '\x7b' :: _ => none
  | '.' :: rest => if s.mode.bytes then none else some ({ s with repeatable := true }, rest)
  | '^' :: rest | '$' :: rest => some ({ s with repeatable := true }, rest)
  | cs =>
    if ['?', '*', '+'].contains (cs.headD ' ') then
      if s.repeatable then some (s, if cs.tail.head? == some '?' then cs.tail.tail else cs.tail)
      else none
    else do
      let (a, rest) ← atom? s.mode cs
      guard (s.mode.admits a)
      return ({ s with
        repeatable := true
        boundary := s.boundary || (a == .boundary && !s.mode.bytes) }, rest)

/-- Reads pieces to the end, `fuel` of them at most. -/
def run : Nat → Scan → List Char → Option Scan
  | 0, _, _ => none
  | fuel + 1, s, cs =>
    match s.mode.rest cs with
    | [] => if s.outer.isEmpty && s.depth == 0 then some s else none
    | c :: rest =>
      (if s.depth == 0 then s.step (c :: rest) else s.classStep (c :: rest)).bind fun (s, rest) =>
        run fuel s rest

end Scan

/-- Whether a text can be used as a pattern. Every piece takes a character at least. -/
def check (cs : List Char) : Except PatternError Unit :=
  match Scan.run (cs.length + 1) {} cs with
  | none => .error .malformed
  | some s => if s.boundary then .error .wordBoundary else .ok ()

end Pattern

end Scrollback
