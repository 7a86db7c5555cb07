import Scrollback.Screen.Canvas
import Scrollback.Screen.Layout
import Scrollback.Screen.Post
import Scrollback.Screen.Wrap
import Scrollback.Session.Basic
/-!
# Frames

A frame shows a session. The newest visible message stands on the last row of the list; what does
not fit above it is cut off at the top.

## Main definitions

* `Session.headerLine`, `Session.helpLine`, `Session.statusLine?` — what stands around the list.
* `Session.listRows` — the list of messages.
* `Session.renderOn`, `Session.render` — the whole frame, for a reader with any clock and with one that
  is always as far ahead. Drawing a frame sets the viewport's height.
-/

namespace Scrollback

namespace Session

/-! ## Header -/

/-- The words of the unread banner. -/
def noticeText (n : Notice) (time : LocalTime) : String :=
  let count := toString n.count ++ " new " ++ (if n.count = 1 then "message" else "messages")
  match n.since with
  | some t => count ++ " since " ++ time.clock t ++ " on " ++ time.dayMonth t
  | none => count

/-- The channel's name, with the unread banner. -/
def headerLine (s : Session) (time : LocalTime) : Line where
  spans :=
    ⟨"# " ++ s.channel, { foreground := some Palette.accent, bold := true }⟩ ::
      match s.window.notice? s.graph s.unread (some s.identity) with
      | some n =>
        [⟨"  │  ", .ink Palette.dim⟩, ⟨noticeText n time, .ink .white⟩,
          ⟨"  (u to jump)", .ink Palette.dim⟩]
      | none => []

/-! ## Footer -/

/-- Keys and what they do. -/
def keyHelp : List (String × String) :=
  [("↑↓", "scroll"), ("u", "unread"), ("End", "latest"), ("s", "send"), ("q", "quit")]

/-- The keys that a reader should know. -/
def helpLine : Line where
  spans := ((keyHelp.map fun (key, label) =>
    [⟨key, .ink .white⟩, ⟨" " ++ label, .ink Palette.dim⟩]).intersperse [⟨"  ", {}⟩]).flatten

/-- The directions in which a page is on its way. -/
def loading (s : Session) : List Direction :=
  [Direction.older, .newer].filter fun d => s.window.state.gate d == .pending

/-- What is going on: a failure before loading before the way back to the newest message. -/
def status? (s : Session) : Option (String × Color) :=
  match s.failure, s.loading with
  | some (d, e), _ =>
    some ("Loading " ++ d.label ++ " messages failed: " ++ e.message ++ " · r to retry", .red)
  | none, d :: _ => some ("Loading " ++ d.label ++ " messages…", .cyan)
  | none, [] =>
    if s.window.isAtEnd s.graph then none else some ("↓ Jump to latest (End)", Palette.accent)

/-- What is going on, as a line. -/
def statusLine? (s : Session) : Option Line :=
  s.status?.map fun (text, color) => { spans := [⟨text, .ink color⟩] }

/-! ## Message list -/

/-- Shown while nothing is loaded. -/
def emptyLine (s : Session) : Line where
  spans := [⟨if s.window.state.older = .pending then "Loading history..." else "No messages yet.",
    .ink Palette.dim⟩]

/-- The rows that are drawn: the mounted ones down to the newest visible message. -/
def visibleRows (s : Session) (time : LocalTime) : Checked (List Row) := do
  let rows ← s.window.rowsOn s.graph (some s.identity) time.day
  return match s.window.viewport.bottom? s.graph with
    | some bottom => rows.filter (·.index ≤ bottom)
    | none => rows

/-- The lines of the list, broken to a width. -/
def listLines (s : Session) (time : LocalTime) (width : Nat) : Checked (List (List Glyph)) := do
  let rows ← s.visibleRows time
  if width = 0 then return []
  return (rows.flatMap (·.lines s.identity time width)).flatMap fun l => Glyph.wrap width l.glyphs

/-- More lines than this are not passed over. -/
def scrollLimit : Nat := 65535

/-- Lines set at the bottom of so many rows; those that do not fit are cut off at the top. -/
def settle (height : Nat) (lines : List (List Glyph)) : List (List Glyph) :=
  List.replicate (height - lines.length) [] ++
    (lines.drop (min (lines.length - height) scrollLimit)).take height

/-- The rows of the list. -/
def listRows (s : Session) (time : LocalTime) (width height : Nat) :
    Checked (List (List Placed)) := do
  if s.graph.isEmpty then
    return (Glyph.placeAt 0 (Glyph.truncate width s.emptyLine.glyphs) ::
      List.replicate (height - 1) []).take height
  return (settle height (← s.listLines time width)).map (Glyph.placeAt 0)

/-! ## The frame -/

/-- The header's row. -/
def headerRow (s : Session) (time : LocalTime) (width : Nat) : List Placed :=
  Glyph.placeAt Layout.padding
    (Glyph.truncate (Layout.paddedWidth width) (s.headerLine time).glyphs)

/-- The footer's row: the keys on the left, and on the right what is going on. -/
def footerRow (s : Session) (width : Nat) : List Placed :=
  let right := Layout.rightWidth width
  let left := Layout.paddedWidth width - right
  let status := s.statusLine?.elim [] fun l => Glyph.truncate right l.glyphs
  Glyph.placeAt Layout.padding (Glyph.truncate left helpLine.glyphs) ++
    Glyph.placeAt (Layout.padding + left + (right - Glyph.total status)) status

/-- A rule across the frame. -/
def ruleRow (width : Nat) : List Placed :=
  Glyph.placeAt 0 (List.replicate width ⟨[ruleChar], 1, .ink Palette.dim⟩)

/-- Draws a frame for a reader with a given clock. -/
def renderOn (s : Session) (time : LocalTime) (width height : Nat) :
    Checked (Session × Canvas) := do
  let body := Layout.bodyHeight height
  let s := s.mapWindow fun w => { w with viewport.height := body }
  let list ← s.listRows time width body
  let rows :=
    if Layout.isCompact height then list
    else s.headerRow time width :: ruleRow width :: list ++ [ruleRow width, s.footerRow width]
  return (s, ← Canvas.check { width, rows })

/-- Draws a frame for a reader whose clock is `zone` seconds ahead. -/
def render (s : Session) (zone : Int) (width height : Nat) : Checked (Session × Canvas) :=
  s.renderOn (.ahead fun _ => zone) width height

end Session

end Scrollback
