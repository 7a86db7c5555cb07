import Std.Time
import Scrollback.Launch
import Scrollback.Screen.Frame
import Scrollback.Session.Input
/-!
# The program

The program opens a channel and shows it frame by frame. Each line of its input names keys, with
blanks between them; between two lines the clock runs on, and what has come in meanwhile is
handled before the keys are.

## Main definitions

* `Terminal.environment` — files, the log and the clock of the system.
* `main` — the program.
-/

namespace Scrollback.Terminal

/-- Columns of the screen. -/
def width : Nat := 80

/-- Rows of the screen. -/
def height : Nat := 24

/-- An error of the system that concerns a file. -/
def fileError : IO.Error → FileError
  | .noFileOrDirectory _ _ _ => .notFound
  | .inappropriateType _ code _ =>
    if code = 20 then .notADirectory else .isDirectory
  | e => .other (toString e)

/-- Does something with a file and catches what goes wrong. -/
def attempt {α : Type} (action : IO α) : IO (Except FileError α) := do
  try
    return .ok (← action)
  catch e =>
    return .error (fileError e)

/-- The instant of the system's clock. -/
def clock : IO Instant := do
  let t ← Std.Time.Timestamp.now
  let since := t.toDurationSinceUnixEpoch
  return { (Instant.mk ⟨1970, 1, 1⟩ 0 0).addSeconds since.second.val with
    nanos := since.nano.val.toNat }

/-- Files, the log and the clock of the system. The log is kept once it is open. -/
def environment (log : IO.Ref (Option IO.FS.Handle)) : Environment IO where
  contents path := attempt (IO.FS.readBinFile path)
  openLog path append := attempt do
    log.set (some (← IO.FS.Handle.mk path (if append then .append else .write)))
  writeLog line := do
    if let some handle ← log.get then
      handle.putStrLn line
  defaultFilter := IO.getEnv "RUST_LOG"
  now := clock

/-- The answer of a computation; a fault ends the program. -/
def checked {α : Type} : Checked α → IO α
  | .ok a => return a
  | .error f => throw (.userError f.message)

/-- Prints a frame. -/
def display (s : Session) : IO Session := do
  let (s, canvas) ← checked (s.render 0 width height)
  for line in canvas.lines do
    IO.println line
  return s

/-- Shows the session and reads keys until the reader leaves. -/
partial def run (began : Nat) (s : Session) : IO Unit := do
  let s ← display s
  let line ← (← IO.getStdin).getLine
  if line.isEmpty then return
  let elapsed := (← IO.monoMsNow) - began
  let (s, _) ← checked (s.advance (elapsed - s.now)).drain
  let s ← checked (s.dispatch .tick)
  let keys := (line.toList.splitOnP Text.isBlank).filter (· ≠ [])
  let s ← keys.foldlM (fun s k => checked (s.press (Key.ofName (String.ofList k)) false)) s
  unless s.quit do
    run began s

end Scrollback.Terminal

open Scrollback in
/-- Opens the channel that the command line asks for and shows it. -/
def main (args : List String) : IO UInt32 := do
  let l ← launch (Terminal.environment (← IO.mkRef none)) args
  for hint in l.hints do
    IO.eprintln hint
  match l.outcome with
  | .error e =>
    IO.eprintln e.message
    return e.exitCode.toUInt32
  | .ok s =>
    let s ← Terminal.checked (s.mount (Layout.bodyHeight Terminal.height))
    Terminal.run (← IO.monoMsNow) s
    return 0
