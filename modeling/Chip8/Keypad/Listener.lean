-- A listener takes raw keys from a reader and puts those that name a key
-- into a buffer. Quit keys are noted instead. A reader that fails ends the
-- listener and counts as a wish to quit.
import Chip8.Journal.Notice
import Chip8.Keypad.Keyboard
import Chip8.Keypad.Symbol
namespace Chip8

/-- What a raw key does at the keyboard: it asks to quit, it presses a key, or
it does nothing. -/
def rawEvent? {ρ κ : Type} [RawSymbol ρ] [KeyCode κ] (quits : Bool) (raw : ρ) :
    Option (KeyEvent κ) :=
  if quits then some .close
  else (RawSymbol.key? raw).map fun key => .press (KeyCode.ofKey key)

/-- What one reading gives. -/
inductive Reading (ρ τ : Type) where
  /-- Time passes before the reading. -/
  | pause (span : τ)
  /-- A key was typed. -/
  | key (raw : ρ)
  /-- Nothing was typed. -/
  | nothing
  /-- The reading fails; the text says why. -/
  | failure (shown : String)

/-- A listener at its keyboard. The input is closed when a quit key was
typed. -/
structure Listener (ρ κ τ : Type) where
  keyboard : Keyboard κ τ
  /-- Whether a raw key asks to quit, if that can be told. -/
  isQuit : ρ → Except Text.ValueProblem Bool
  /-- Whether the listener was asked to stop. -/
  stopped : Bool
  /-- Whether the listener was started and not stopped since. -/
  running : Bool
  /-- What is still to be read. -/
  readings : List (Reading ρ τ)
  /-- What was told, the latest in front. -/
  journal : List Notice

namespace Listener

variable {ρ κ τ : Type} [RawSymbol ρ] [KeyCode κ] [Time τ]

def tell (l : Listener ρ κ τ) (n : Notice) : Listener ρ κ τ := { l with journal := n :: l.journal }

/-- What a raw key does. A quit key is told. -/
def accept (l : Listener ρ κ τ) (quits : Bool) (raw : ρ) : Listener ρ κ τ :=
  let l := if quits then l.tell (.quitKey (RawSymbol.shown raw)) else l
  match rawEvent? quits raw with
  | some event => { l with keyboard := l.keyboard.perform event }
  | none => l

/-- Reads one key after the other. The listener is stopped when nothing is
left to read, and ends where it cannot be told whether a key asks to quit. -/
def read (l : Listener ρ κ τ) :
    List (Reading ρ τ) → Except Text.ValueProblem Unit × Listener ρ κ τ
  | [] => (.ok (), { l with stopped := true, readings := [] })
  | .pause span :: rest => read { l with keyboard := l.keyboard.advance span } rest
  | .nothing :: rest => read l rest
  | .key raw :: rest =>
    match l.isQuit raw with
    | .ok quits => read (l.accept quits raw) rest
    | .error p => (.error p, { l with readings := rest })
  | .failure shown :: rest =>
    let l := { l with keyboard := l.keyboard.perform .close, readings := rest }
    (.ok (), l.tell (.readerFailed shown))

/-- Listens until asked to stop. -/
def listen (l : Listener ρ κ τ) : Except Text.ValueProblem Unit × Listener ρ κ τ :=
  if l.stopped then (.ok (), l) else l.read l.readings

/-- Starts a listener, unless it runs. -/
def start (l : Listener ρ κ τ) : Except Refusal Unit × Listener ρ κ τ :=
  if l.running then (.error .listenerRunning, l)
  else (.ok (), { l with running := true }.tell .listenerStarted)

/-- Asks a listener to stop and waits until it has ended. -/
def stop (l : Listener ρ κ τ) : Listener ρ κ τ :=
  { l with stopped := true, running := false }.tell .listenerStopped

/-- Lets a stopped listener listen again, with more to read. -/
def rearm (l : Listener ρ κ τ) (more : List (Reading ρ τ)) : Listener ρ κ τ :=
  { l with stopped := false, readings := l.readings ++ more }

end Listener

end Chip8
