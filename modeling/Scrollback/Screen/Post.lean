import Scrollback.Screen.Line
import Scrollback.Time.Stamp
import Scrollback.Window.Rows
/-!
# Drawing messages

A row of the message list becomes lines: dividers for unread messages and new days, the author
with the time, and the message itself.

## Main definitions

* `Palette` — the colours.
* `Row.lines` — the lines of a row.
-/

namespace Scrollback

namespace Palette

/-- What calls for attention. -/
def accent : Color := .mixed 244 118 0

/-- What stands back. -/
def dim : Color := .darkGray

/-- Behind a message that stands out. -/
def highlight : Color := .mixed 40 44 52

/-- Behind code. -/
def code : Color := .mixed 30 30 30

/-- The colour of an author: the reader's own messages are white. -/
def author (name identity : String) : Color :=
  if name = identity then .white else accent

end Palette

/-- A stroke of a rule. -/
def ruleChar : Char := '─'

/-- A rule with a label in its middle. -/
def Line.divider (width : Nat) (label : String) (c : Color) : Line :=
  let side := (width - (Text.columns label.toList + 2)) / 2
  let rule := String.ofList (List.replicate side ruleChar)
  { spans := [⟨rule ++ " " ++ label ++ " " ++ rule, .ink c⟩] }

/-- A part of a message. -/
def Content.span : Content → Span
  | .text s => ⟨s, {}⟩
  | .url s => ⟨s, { underlined := true }⟩
  | .code s => ⟨s, { background := some Palette.code }⟩
  | .mention who => ⟨"~" ++ who, { foreground := some .yellow, bold := true }⟩

namespace Row

/-- What is left of a deleted message. -/
def placeholder : Line :=
  { spans := [⟨"This message has been deleted.",
      { foreground := some Palette.dim, italic := true }⟩] }

/-- The author's line, with an empty one above it. -/
def authorLines (m : Message) (identity : String) (time : LocalTime) : List Line :=
  [{ spans := [] },
    { spans := [
      ⟨m.author, { foreground := some (Palette.author m.author identity), bold := true }⟩,
      ⟨"  " ++ time.clock m.sentAt, .ink Palette.dim⟩] }]

/-- The line of the message itself. -/
def bodyLine (r : Row) (m : Message) : Line where
  spans := m.contents.map Content.span ++ (if m.pending then [⟨"  (sending)", {}⟩] else [])
  style :=
    { foreground := if m.pending then some Palette.dim else none
      background := if r.highlighted then some Palette.highlight else none }

/-- The lines of a row, for a reader of a given name and with a given clock. -/
def lines (r : Row) (identity : String) (time : LocalTime) (width : Nat) : List Line :=
  (if r.unreadMarker then [Line.divider width "New messages" .red] else []) ++
    match r.message with
    | none => [placeholder]
    | some m =>
      (if r.dayBreak then [Line.divider width (time.longDay m.sentAt) Palette.dim] else []) ++
      (if r.showAuthor then authorLines m identity time else []) ++
      [r.bodyLine m]

end Row

end Scrollback
