-- A keyboard with its clock. Keypresses and other events are due at set
-- times; they happen when the clock passes them. A wait for a key lets time
-- pass until the next event or until its deadline.
import Chip8.Keypad.Basic
import Chip8.Keypad.Buffer
namespace Chip8

/-- What a window tells about its keyboard. -/
inductive WindowEvent where
  | keyDown (code : Int)
  | keyUp (code : Int)
  | quit
deriving DecidableEq, Repr

/-- What can happen at a keyboard. -/
inductive KeyEvent (κ : Type) where
  /-- A key goes into the buffer. -/
  | press (key : κ)
  /-- The input is closed. -/
  | close
  /-- A window event waits to be read. -/
  | window (event : WindowEvent)
deriving DecidableEq, Repr

/-- A keyboard, its clock and what is still to happen. -/
structure Keyboard (κ τ : Type) where
  now : τ
  /-- Events with the times when they are due, the earliest in front. -/
  pending : List (τ × KeyEvent κ)
  buffer : KeyBuffer κ τ
  /-- Whether the input was closed. -/
  closed : Bool
  /-- Window events that wait to be read. -/
  inbox : List WindowEvent

namespace Keyboard

variable {κ τ : Type} [Time τ]

/-- A keyboard on which nothing will happen. -/
def idle (now : τ) (buffer : KeyBuffer κ τ) : Keyboard κ τ :=
  { now, buffer, pending := [], closed := false, inbox := [] }

/-- Puts an event behind all that are due no later. -/
def insertPending (due : τ) (event : KeyEvent κ) : List (τ × KeyEvent κ) → List (τ × KeyEvent κ)
  | [] => [(due, event)]
  | (t, e) :: rest =>
    if due < t then (due, event) :: (t, e) :: rest
    else (t, e) :: insertPending due event rest

/-- Events in the order in which they will happen. -/
def schedule (events : List (τ × KeyEvent κ)) : List (τ × KeyEvent κ) :=
  events.foldl (fun l (t, e) => insertPending t e l) []

/-! ## Time -/

/-- What an event does at the keyboard. -/
def perform (k : Keyboard κ τ) : KeyEvent κ → Keyboard κ τ
  | .press key => { k with buffer := k.buffer.push k.now key }
  | .close => { k with closed := true }
  | .window event => { k with inbox := k.inbox ++ [event] }

/-- Lets the events of a list happen that are due by a time; the others stay
pending. -/
def performDue (k : Keyboard κ τ) (target : τ) : List (τ × KeyEvent κ) → Keyboard κ τ
  | [] => { k with pending := [] }
  | (t, e) :: rest =>
    if t ≤ target then
      performDue (perform { k with now := Time.later k.now t } e) target rest
    else { k with pending := (t, e) :: rest }

/-- Lets some time pass, with everything that is due in it. -/
def advance (k : Keyboard κ τ) (span : τ) : Keyboard κ τ :=
  let target := k.now + span
  let k := performDue k target k.pending
  { k with now := Time.later k.now target }

/-- Whether an event is due within a span; any event is if there is no
limit. -/
def dueWithin (k : Keyboard κ τ) (limit : Option τ) (due : τ) : Bool :=
  match limit with
  | none => true
  | some span => due ≤ k.now + span

/-- When the next event is due, if it is due within a span. -/
def nextDue? (k : Keyboard κ τ) (limit : Option τ) : Option τ :=
  (k.pending.head?.map (·.1)).filter (k.dueWithin limit)

/-- Lets time pass to the next event, or by `limit` if none is due before.
There is no answer if nothing can end the wait. -/
def pass (k : Keyboard κ τ) (limit : Option τ) : Option (Keyboard κ τ) :=
  match k.nextDue? limit, limit with
  | some due, _ => some (k.advance (Time.later 0 (due - k.now)))
  | none, none => none
  | none, some span => some (k.advance span)

/-! ## Waiting for a key -/

/-- How a wait for a key ends. -/
inductive Waited (κ : Type) where
  | key (key : κ)
  | timedOut
  | endless
deriving DecidableEq, Repr

/-- How a wait lets time pass, up to a limit if there is one. -/
abbrev Passing (κ τ : Type) := Keyboard κ τ → Option τ → Option (Keyboard κ τ)

/-- Takes the oldest fresh key, or waits for one up to a deadline. -/
def popUntil (passing : Passing κ τ) (deadline : Option τ) :
    Nat → Keyboard κ τ → Waited κ × Keyboard κ τ
  | 0, k => (.timedOut, k)
  | fuel + 1, k =>
    match k.buffer.pop k.now with
    | (some key, buffer) => (.key key, { k with buffer })
    | (none, buffer) =>
      let k := { k with buffer }
      let limit := deadline.map (· - k.now)
      if limit.any (· ≤ 0) then (.timedOut, k)
      else
        match passing k limit with
        | none => (.endless, k)
        | some k => popUntil passing deadline fuel k

/-- Each turn of a wait uses up an event or reaches the deadline. When times
are rounded, either can take a second turn. -/
def popTurns (k : Keyboard κ τ) : Nat := 2 * k.pending.length + 4

/-- Takes the oldest fresh key, or waits for one for some time, or for ever
if no time is given. -/
def popWithin (passing : Passing κ τ) (k : Keyboard κ τ) (timeout : Option τ) :
    Waited κ × Keyboard κ τ :=
  popUntil passing (timeout.map (k.now + ·)) k.popTurns k

/-- Waits for a key and looks again and again whether the input was closed.
`check` tells so and may change the keyboard. -/
def awaitKey [KeyCode κ] (passing : Passing κ τ) (check : Keyboard κ τ → Bool × Keyboard κ τ)
    (reason : String) (poll : Option τ) : Nat → Keyboard κ τ → Except Fault κ × Keyboard κ τ
  | 0, k => (.error .endlessWait, k)
  | fuel + 1, k =>
    match check k with
    | (true, k) => (.error (.inputClosed reason), k)
    | (false, k) =>
      match k.popWithin passing poll with
      | (.key key, k) =>
        if KeyCode.isNothing key then awaitKey passing check reason poll fuel k else (.ok key, k)
      | (.timedOut, k) => awaitKey passing check reason poll fuel k
      | (.endless, k) => (.error .endlessWait, k)

/-- The time from now to the last event. -/
def remainingSpan (k : Keyboard κ τ) : τ :=
  match k.pending.getLast? with
  | none => 0
  | some (due, _) => due - k.now

/-- How many looks are enough until the last event has happened and the
looks after it are done, with as many again for rounded times, and one for
each key in the buffer. -/
def awaitTurns (k : Keyboard κ τ) (poll : Option τ) : Nat :=
  let looks := match poll with
    | none => 0
    | some step => Time.stepsToCover k.remainingSpan step
  2 * (looks + k.pending.length) + k.buffer.presses.length + 8

end Keyboard

end Chip8
