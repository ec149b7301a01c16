-- A keypad of any kind, as requests and sessions use it. Nobody is there to end
-- a wait with nothing left to happen, so it closes the input, and the events of
-- a window may be written down beforehand.
import Chip8.Keypad.Device
namespace Chip8

/-! ## Waits that nobody else can end -/

/-- Lets time pass. Where it runs out with nothing left to happen, the input is
closed. -/
def Keyboard.passOrClose {κ τ : Type} [Time τ] (k : Keyboard κ τ) (limit : Option τ) :
    Option (Keyboard κ τ) :=
  let later := k.pass limit
  if (k.nextDue? limit).isSome then later
  else later.map fun k => if k.pending.isEmpty then k.perform .close else k

/-- Waits for a key. If the input can be closed, it is closed where nothing is
left to happen. -/
def BufferedKeypad.waitOrClose {κ τ : Type} [KeyCode κ] [Time τ] (b : BufferedKeypad κ τ) :
    Except Fault κ × BufferedKeypad κ τ :=
  b.waitBy (if b.closable then Keyboard.passOrClose else Keyboard.pass)

namespace WindowKeypad

variable {κ τ : Type} [KeyCode κ] [Time τ]

/-- Waits for a key. The input is closed where nothing is left to happen. -/
def waitOrClose (w : WindowKeypad κ τ) : Except Fault κ × WindowKeypad κ τ :=
  w.waitBy Keyboard.passOrClose (w.keyboard.awaitTurns w.poll)

/-! ## Events that are written down -/

/-- The window with more events to be read. -/
def receive (w : WindowKeypad κ τ) (events : List WindowEvent) : WindowKeypad κ τ :=
  { w with keyboard := { w.keyboard with inbox := w.keyboard.inbox ++ events } }

/-- The first of the batches that are left has come; when they are used up, a
wish to quit. -/
def next (w : WindowKeypad κ τ) (batches : List (List WindowEvent)) : WindowKeypad κ τ :=
  w.receive (batches.headD [.quit])

/-- Waits for a key, with one batch of events for each look. -/
def waitWith : List (List WindowEvent) → WindowKeypad κ τ →
    Except Fault κ × WindowKeypad κ τ × List (List WindowEvent)
  | [], w => let (key, w) := (w.next []).wait; (key, w, [])
  | batch :: rest, w =>
    match (w.receive batch).waitBy Keyboard.pass 1 with
    | (.error .endlessWait, w) => waitWith rest w
    | (key, w) => (key, w, rest)

end WindowKeypad

/-! ## Any keypad -/

/-- A keypad of any kind, with a clock. -/
inductive AnyKeypad (κ τ : Type) where
  | silent (keyboard : Keyboard κ τ)
  | held (keyboard : Keyboard κ τ) (key : κ)
  | buffered (b : BufferedKeypad κ τ)
  | window (w : WindowKeypad κ τ)
  /-- A window with the events that come with each reading. -/
  | scripted (w : WindowKeypad κ τ) (batches : List (List WindowEvent))

namespace AnyKeypad

variable {κ τ : Type} [KeyCode κ] [Time τ]

def keyboard : AnyKeypad κ τ → Keyboard κ τ
  | silent k => k
  | held k _ => k
  | buffered b => b.keyboard
  | window w | scripted w _ => w.keyboard

/-- The keypad with its keyboard changed. -/
def mapKeyboard (f : Keyboard κ τ → Keyboard κ τ) : AnyKeypad κ τ → AnyKeypad κ τ
  | silent k => silent (f k)
  | held k key => held (f k) key
  | buffered b => buffered { b with keyboard := f b.keyboard }
  | window w => window { w with keyboard := f w.keyboard }
  | scripted w batches => scripted { w with keyboard := f w.keyboard } batches

/-- The key that is held now. -/
def peek : AnyKeypad κ τ → Option κ × AnyKeypad κ τ
  | silent k => (none, silent k)
  | held k key => (some key, held k key)
  | buffered b => let (key, b) := b.peek; (key, buffered b)
  | window w => let (key, w) := w.peek; (key, window w)
  | scripted w batches => let (key, w) := (w.next batches).peek; (key, scripted w batches.tail)

/-- The next key. -/
def wait : AnyKeypad κ τ → Except Fault κ × AnyKeypad κ τ
  | silent k => (.ok (KeyCode.ofKey 0), silent k)
  | held k key => (.ok key, held k key)
  | buffered b => let (key, b) := b.waitOrClose; (key, buffered b)
  | window w => let (key, w) := w.waitOrClose; (key, window w)
  | scripted w batches => let (key, w, batches) := w.waitWith batches; (key, scripted w batches)

/-- Whether the keypad asks to stop. A window handles its events first. -/
def shouldStop : AnyKeypad κ τ → Bool × AnyKeypad κ τ
  | window w => let (stop, w) := w.shouldStop; (stop, window w)
  | scripted w batches =>
    let (stop, w) := (w.next batches).shouldStop
    (stop, scripted w batches.tail)
  | k => (k.keyboard.closed, k)

/-- What the keypad tells when a wait begins. -/
def announcement : AnyKeypad κ τ → Option Notice
  | silent _ | held .. => none
  | buffered b => Keypad.announcement b
  | window w | scripted w _ => Keypad.announcement w

instance : Keypad (AnyKeypad κ τ) where
  peek k := let (key, k) := k.peek; (key.bind KeyCode.number?, k)
  wait k := let (key, k) := k.wait; (key >>= KeyCode.stored, k)
  announcement := announcement

end AnyKeypad

end Chip8
