import Scrollback.Unread
import Scrollback.Window.Mounted
import Scrollback.Window.Policy
import Scrollback.Window.State
/-!
# Window transitions

The window is a state machine. `step` takes the state, one event and everything else a
transition may read, and answers the next state with the effects to carry out, in order.

## Main definitions

* `Event`, `Effect` — what a window is told and what it asks for.
* `Inputs` — what a transition may read besides the state.
* `step` — the transition.
* `steps` — a run of transitions.

## Implementation notes

A transition is written as a sequence of small moves on a `Progress`: the state so far, the
effects so far and the offset that the view will have once they are carried out. Only the last
move of an event, the look at the loaded ends, can fault.
-/

namespace Scrollback

/-- What a window is told. -/
inductive Event where
  /-- The window comes on screen. -/
  | mount
  /-- The loaded messages or the unread count changed. -/
  | update
  /-- The reader scrolled to an offset from the newest loaded message. -/
  | scroll (offset : Nat)
  /-- A page request came to its end. -/
  | settled (direction : Direction) (result : FetchResult)
  /-- The reader looked at the window or away from it. -/
  | focus (focused : Bool)
  /-- Time passed. -/
  | tick
  /-- The reader asked for the newest message. -/
  | jumpToLatest
  /-- The reader asked for the oldest unread message. -/
  | jumpToUnread
  /-- The reader asked to repeat a failed request. -/
  | retry (direction : Direction)
  /-- The loaded messages were exchanged for others. -/
  | reset
  /-- The window goes off screen for good. -/
  | teardown
deriving DecidableEq

/-- The event concerns a window that is not on screen yet. -/
def Event.concernsUnmounted : Event → Bool
  | .mount | .teardown => true
  | _ => false

/-- What a window asks for. -/
inductive Effect where
  /-- Show a message as the oldest visible one, as far as history allows. -/
  | scrollToIndex (index : MessageIndex)
  /-- Show the newest message. -/
  | scrollToLatest
  /-- Load a page. -/
  | fetch (direction : Direction)
  /-- Mark the unread messages as read. -/
  | dismissUnread
  /-- Load the newest page. -/
  | getMostRecent
  /-- Tell the reader that a page could not be loaded. -/
  | fetchFailed (direction : Direction) (error : FetchError)
deriving DecidableEq, Repr

/-- What a transition may read besides the state. -/
structure Inputs where
  /-- The loaded messages. -/
  graph : Graph
  /-- How many messages are unread. -/
  unread : Nat
  /-- The message the window was opened at. -/
  target : Option MessageIndex
  /-- The reader looks at the window. -/
  focused : Bool
  /-- The offset of the view before the event. -/
  offset : Nat
  /-- How many messages are visible at most. -/
  visible : Nat
  /-- The time, in milliseconds. -/
  now : Nat
  /-- The distances and the time to decide by. -/
  policy : Policy

/-- The outcome of a transition. -/
@[ext]
structure Transition where
  /-- The next state. -/
  state : WindowState
  /-- The effects, in the order in which they are to be carried out. -/
  effects : List Effect
deriving DecidableEq

/-- A transition under way. -/
structure Progress where
  /-- The state so far. -/
  state : WindowState
  /-- The effects so far. -/
  effects : List Effect
  /-- The offset of the view once the effects so far are carried out. -/
  offset : Nat

namespace Progress

/-- Adds an effect. -/
def emit (p : Progress) (e : Effect) : Progress :=
  { p with effects := p.effects ++ [e] }

/-- Changes the state. -/
def update (p : Progress) (f : WindowState → WindowState) : Progress :=
  { p with state := f p.state }

/-- The transition that has been gone through. -/
def finish (p : Progress) : Transition :=
  ⟨p.state, p.effects⟩

/-! ## Scrolling -/

/-- The mode that goes with an offset. -/
def modeAt (offset : Nat) : ScrollMode :=
  if offset = 0 then .lockedToBottom else .freeScroll

/-- Goes to the newest message and stays there. -/
def scrollToLatest (p : Progress) : Progress :=
  { p with
    offset := 0
    state := { p.state with scroll := .lockedToBottom }
    effects := p.effects ++ [.scrollToLatest] }

/-- Goes to a loaded message, which becomes the oldest visible one where history allows. -/
def scrollToIndex (inp : Inputs) (index : MessageIndex) (p : Progress) : Progress :=
  match inp.graph.positionOf? index with
  | none => p
  | some position =>
    let below := inp.graph.size - 1 - position
    let offset := below - (max inp.visible 1 - 1)
    { p with
      offset := offset
      state := { p.state with scroll := modeAt offset }
      effects := p.effects ++ [.scrollToIndex index] }

/-! ## The reader -/

/-- Notes that the reader is active now. -/
def markActive (inp : Inputs) (p : Progress) : Progress :=
  p.update fun s => { s with idle := false, lastActivity := some inp.now }

/-- Input by the reader counts as activity while the window has the focus. -/
def touch (inp : Inputs) (p : Progress) : Progress :=
  if inp.focused then p.markActive inp else p

/-- Dismisses the unread episode when a focused reader is near the newest message. -/
def tryDismiss (inp : Inputs) (p : Progress) : Progress :=
  if p.state.unreadDismissed ∨ inp.unread = 0 then p
  else if ¬ inp.focused ∨ inp.policy.dismissOffset ≤ p.offset then p
  else (p.update fun s => { s with unreadDismissed := true }).emit .dismissUnread

/-! ## The unread episode -/

/-- A growing count opens a new episode; a count that falls to zero closes the present one. -/
def trackUnread (inp : Inputs) (p : Progress) : Progress :=
  let prev := p.state.prevUnread
  p.update fun s =>
    if prev < inp.unread then
      { s with
        prevUnread := inp.unread
        unreadDismissed := false
        unreadIndex := inp.graph.unreadBoundary? inp.unread }
    else if inp.unread = 0 ∧ 0 < prev then
      { s with prevUnread := inp.unread, unreadDismissed := true }
    else { s with prevUnread := inp.unread }

/-- Looks for the boundary of an open episode if it is not known yet. -/
def recomputeUnread (inp : Inputs) (p : Progress) : Progress :=
  if p.state.unreadIndex = none ∧ ¬ p.state.unreadDismissed then
    p.update fun s => { s with unreadIndex := inp.graph.unreadBoundary? inp.unread }
  else p

/-! ## The target -/

/-- Goes to the target as soon as it is loaded, once. -/
def reachTarget (inp : Inputs) (p : Progress) : Progress :=
  if p.state.targetReached then p
  else match inp.target with
    | none => p.update fun s => { s with targetReached := true }
    | some target =>
      if inp.graph.contains target then
        (p.update fun s => { s with targetReached := true }).scrollToIndex inp target
      else p

/-- The direction in which a target that is not loaded yet lies beyond the loaded messages. -/
def targetDirection? (inp : Inputs) (p : Progress) : Option Direction :=
  if p.state.targetReached then none
  else do
    let target ← inp.target
    let newest ← inp.graph.largest?
    let oldest ← inp.graph.smallest?
    if target < oldest then some .older
    else if newest < target then some .newer
    else none

/-! ## The loaded ends -/

/-- Asks for a page unless one is on its way or nothing is left to load. -/
def requestIfIdle (d : Direction) (p : Progress) : Progress :=
  if p.state.gate d = .idle then (p.update (·.setGate d .pending)).emit (.fetch d) else p

/-- Asks for pages where the mounted range comes near a loaded end, or toward the target. -/
def checkEdges (inp : Inputs) (p : Progress) : Checked Progress := do
  let size := inp.graph.size
  if size = 0 then
    return p.requestIfIdle .older
  let mounted ← Mounted.around size p.offset inp.visible inp.policy.overscan
  let toward := p.targetDirection? inp
  let threshold := inp.policy.fetchThreshold
  let p :=
    if mounted.nearOldest threshold ∨ toward = some .older then p.requestIfIdle .older else p
  let near ← mounted.nearNewest size threshold
  return if near ∨ toward = some .newer then p.requestIfIdle .newer else p

/-! ## Events -/

/-- Mounting goes to the target if it is loaded, else to the unread boundary, else to the end. -/
def mount (inp : Inputs) (p : Progress) : Checked Progress :=
  if p.state.scroll ≠ .initializing then .ok p
  else
    let p := p.update fun s =>
      { s with
        prevSize := inp.graph.size
        prevUnread := inp.unread
        unreadIndex := inp.graph.unreadBoundary? inp.unread }
    let p :=
      match inp.target.filter inp.graph.contains with
      | some target => (p.update fun s => { s with targetReached := true }).scrollToIndex inp target
      | none =>
        match p.state.visibleUnread with
        | some unread => p.scrollToIndex inp unread
        | none => p.scrollToLatest
    let p := p.update fun s => { s with targetReached := s.targetReached || inp.target.isNone }
    (p.touch inp).checkEdges inp

/-- An update follows growth at the end while locked, and looks at the ends if the size changed.
Arrivals count as read only while the reader is active. -/
def refresh (inp : Inputs) (p : Progress) : Checked Progress :=
  let p := p.trackUnread inp
  let size := inp.graph.size
  if size = p.state.prevSize then .ok (p.reachTarget inp)
  else
    let p := (p.update fun s => { s with prevSize := size }).recomputeUnread inp
    let p :=
      if p.state.scroll = .lockedToBottom then { p.emit .scrollToLatest with offset := 0 } else p
    let p := if p.state.idle then p else p.tryDismiss inp
    (p.reachTarget inp).checkEdges inp

/-- A scroll decides the mode; going far from the end leaves the reader idle. -/
def scrolled (inp : Inputs) (offset : Nat) (p : Progress) : Checked Progress :=
  let p := { p with offset := offset }
  let p :=
    if inp.policy.idleThreshold < offset then p.update fun s => { s with idle := true }
    else p.touch inp
  let p := p.update fun s => { s with scroll := modeAt offset }
  (p.tryDismiss inp).checkEdges inp

/-- A settled request opens its gate again, for good if nothing is left to load. A result that
nothing waits for is passed over. -/
def settled (inp : Inputs) (d : Direction) (result : FetchResult) (p : Progress) :
    Checked Progress :=
  if p.state.gate d ≠ .pending then .ok p
  else match result with
    | .failed e => .ok ((p.update (·.setGate d .idle)).emit (.fetchFailed d e))
    | .loaded outcome =>
      let gate := match outcome with
        | .more => Gate.idle
        | .exhausted => Gate.exhausted
      let p := p.update (·.setGate d gate)
      let p := if d = .older then p.recomputeUnread inp else p
      (p.reachTarget inp).checkEdges inp

/-- Gaining the focus is activity; losing it leaves the reader idle. -/
def focusChanged (inp : Inputs) (focused : Bool) (p : Progress) : Progress :=
  if focused then (p.markActive inp).tryDismiss inp
  else p.update fun s => { s with idle := true }

/-- An active reader goes idle when the last activity lies back long enough. -/
def ticked (inp : Inputs) (p : Progress) : Progress :=
  if p.state.idle then p
  else if p.state.lastActivity.any fun t => decide (inp.policy.idleTimeout ≤ inp.now - t) then
    p.update fun s => { s with idle := true }
  else p

/-- Exchanged messages open both gates and start at the end, without a target. -/
def reset (inp : Inputs) (p : Progress) : Checked Progress :=
  let p := p.update fun s =>
    { s with
      older := .idle
      newer := .idle
      prevSize := inp.graph.size
      prevUnread := inp.unread
      unreadDismissed := false
      unreadIndex := inp.graph.unreadBoundary? inp.unread
      targetReached := true }
  p.scrollToLatest.checkEdges inp

/-- A jump to the newest message asks for the newest page and follows the end from now on. -/
def jumpToLatest (inp : Inputs) (p : Progress) : Checked Progress :=
  ((((p.touch inp).emit .getMostRecent).scrollToLatest).tryDismiss inp).checkEdges inp

/-- A jump to the unread boundary, if one is shown. -/
def jumpToUnread (inp : Inputs) (p : Progress) : Checked Progress :=
  let p := p.touch inp
  match p.state.visibleUnread with
  | some index => (p.scrollToIndex inp index).checkEdges inp
  | none => .ok p

/-- What an event does to a window that accepts it. -/
def handle (inp : Inputs) (event : Event) (p : Progress) : Checked Progress :=
  match event with
  | .mount => p.mount inp
  | .update => p.refresh inp
  | .scroll offset => p.scrolled inp offset
  | .settled d result => p.settled inp d result
  | .focus focused => .ok (p.focusChanged inp focused)
  | .tick => .ok (p.ticked inp)
  | .jumpToLatest => p.jumpToLatest inp
  | .jumpToUnread => p.jumpToUnread inp
  | .retry d => .ok (p.requestIfIdle d)
  | .reset => p.reset inp
  | .teardown => .ok (p.update fun s => { s with tornDown := true })

end Progress

/-- A window takes notice of an event: none once it is gone, and before it is mounted only of
coming on screen and of going for good. -/
def WindowState.accepts (s : WindowState) (event : Event) : Bool :=
  !s.tornDown && (s.scroll != .initializing || event.concernsUnmounted)

/-- The transition of a window. -/
def step (s : WindowState) (event : Event) (inp : Inputs) : Checked Transition :=
  if s.accepts event then
    (Progress.handle inp event ⟨s, [], inp.offset⟩).map Progress.finish
  else .ok ⟨s, []⟩

/-- A run: every event with its own inputs, each on the state that the one before left. -/
def steps (s : WindowState) : List (Event × Inputs) → Checked (List Transition)
  | [] => .ok []
  | (event, inp) :: rest => do
    let t ← step s event inp
    let ts ← steps t.state rest
    return t :: ts

end Scrollback
