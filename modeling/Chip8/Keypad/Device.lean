-- The keypads that read a keyboard: one that takes keys from the buffer, as
-- a listener puts them there, and one that reads the events of a window.
import Chip8.Keypad.Basic
import Chip8.Keypad.Keyboard
namespace Chip8

/-! ## Keys from the buffer -/

/-- A keypad on a key buffer. -/
structure BufferedKeypad (κ τ : Type) where
  keyboard : Keyboard κ τ
  /-- Whether closing the input ends a wait. -/
  closable : Bool
  /-- How long a wait looks for keys before it looks for the close. -/
  poll : Option τ

namespace BufferedKeypad

variable {κ τ : Type} [KeyCode κ] [Time τ]

/-- The newest fresh key of the buffer. -/
def peek (b : BufferedKeypad κ τ) : Option κ × BufferedKeypad κ τ :=
  let (key, buffer) := b.keyboard.buffer.peek b.keyboard.now
  (key, { b with keyboard := { b.keyboard with buffer } })

/-- Waits for a key until the input is closed, with a way to let time pass. -/
def waitBy (passing : Keyboard.Passing κ τ) (b : BufferedKeypad κ τ) :
    Except Fault κ × BufferedKeypad κ τ :=
  let (key, keyboard) := Keyboard.awaitKey passing (fun k => (b.closable && k.closed, k))
    "Input closed while waiting for a key" b.poll (b.keyboard.awaitTurns b.poll) b.keyboard
  (key, { b with keyboard })

/-- Waits for a key until the input is closed. -/
def wait (b : BufferedKeypad κ τ) : Except Fault κ × BufferedKeypad κ τ :=
  b.waitBy Keyboard.pass

instance : Keypad (BufferedKeypad κ τ) where
  peek b := let (key, b) := b.peek; (key.bind KeyCode.number?, b)
  wait b := let (key, b) := b.wait; (key >>= KeyCode.stored, b)
  announcement _ := some (.waitingForKey .listener)

end BufferedKeypad

/-! ## Keys from a window -/

/-- The key of a key code: the digits and the letters a to f. -/
def windowKey? (code : Int) : Option Int :=
  if 48 ≤ code ∧ code ≤ 57 then some (code - 48)
  else if 97 ≤ code ∧ code ≤ 102 then some (code - 87)
  else none

/-- The key codes that ask to quit: Escape and the letter q. -/
def isQuitCode (code : Int) : Bool := code == 27 || code == 113

/-- A keypad on the events of a window. -/
structure WindowKeypad (κ τ : Type) where
  keyboard : Keyboard κ τ
  poll : Option τ

namespace WindowKeypad

variable {κ τ : Type} [KeyCode κ] [Time τ]

/-- What a window event does. Released keys do nothing. -/
def handle (k : Keyboard κ τ) : WindowEvent → Keyboard κ τ
  | .quit => { k with closed := true }
  | .keyUp _ => k
  | .keyDown code =>
    if isQuitCode code then { k with closed := true }
    else match windowKey? code with
      | some key => { k with buffer := k.buffer.push k.now (KeyCode.ofKey key) }
      | none => k

/-- Handles every event that waits to be read. -/
def pump (k : Keyboard κ τ) : Keyboard κ τ := k.inbox.foldl handle { k with inbox := [] }

/-- Whether the window was asked to quit, after its events were handled. -/
def shouldStop (w : WindowKeypad κ τ) : Bool × WindowKeypad κ τ :=
  let keyboard := pump w.keyboard
  (keyboard.closed, { w with keyboard })

/-- The newest fresh key. -/
def peek (w : WindowKeypad κ τ) : Option κ × WindowKeypad κ τ :=
  let k := pump w.keyboard
  let (key, buffer) := k.buffer.peek k.now
  (key, { w with keyboard := { k with buffer } })

/-- Waits for a key until the window is asked to quit, with a way to let time
pass and so many looks at the events. -/
def waitBy (passing : Keyboard.Passing κ τ) (turns : Nat) (w : WindowKeypad κ τ) :
    Except Fault κ × WindowKeypad κ τ :=
  let (key, keyboard) := Keyboard.awaitKey passing (fun k => let k := pump k; (k.closed, k))
    "Window closed while waiting for a key" w.poll turns w.keyboard
  (key, { w with keyboard })

/-- Waits for a key until the window is asked to quit. -/
def wait (w : WindowKeypad κ τ) : Except Fault κ × WindowKeypad κ τ :=
  w.waitBy Keyboard.pass (w.keyboard.awaitTurns w.poll)

instance : Keypad (WindowKeypad κ τ) where
  peek w := let (key, w) := w.peek; (key.bind KeyCode.number?, w)
  wait w := let (key, w) := w.wait; (key >>= KeyCode.stored, w)
  announcement _ := some (.waitingForKey .window)

end WindowKeypad

end Chip8
