-- Keys from a terminal: a reader turns key codes into texts, and the codes
-- that ask to quit are Escape and the letter q.
import Chip8.Keypad.Listener
import Chip8.Keypad.Value
namespace Chip8.Terminal

/-- The raw key of a key code. Codes of no character are nothing. -/
def rawKey? (code : Int) : Option RawKey :=
  if code < 0 ∨ 0xFF < code then none
  else some (.text (Char.ofNat code.toNat).toString)

/-- What the reading of a key code gives. -/
def reading {τ : Type} (code : Int) : Reading RawKey τ :=
  match rawKey? code with
  | some raw => .key raw
  | none => .nothing

/-- The keys that ask to quit. -/
def quitKeys : List RawKey := [.text "q", .text "\x1b"]

/-- Whether a raw key asks to quit. -/
def isQuit (raw : RawKey) : Bool := quitKeys.contains raw

/-- What a key code does at a terminal. -/
def event? {κ : Type} [KeyCode κ] (code : Int) : Option (KeyEvent κ) :=
  (rawKey? code).bind fun raw => rawEvent? (isQuit raw) raw

/-! ## Codes of any kind -/

/-- The raw key of a key code that may be a value of any kind. -/
def rawKeyOf (code : Text.Value) : Except Text.ValueProblem (Option RawKey) := do
  if ← code.isBelow (.whole 0) then return none
  else if ← code.isAbove (.whole 0xFF) then return none
  else return rawKey? (← code.toCount)

/-- The codes that a reader gives: one for each reading, and -1 when nothing
was typed. -/
def readCodes : Nat → List Text.Value → List Text.Value
  | 0, _ => []
  | n + 1, [] => .whole (-1) :: readCodes n []
  | n + 1, code :: rest => code :: readCodes n rest

/-- The raw keys that a number of readings give. -/
def readKeys (count : Nat) (codes : List Text.Value) :
    Except Text.ValueProblem (List (Option RawKey)) :=
  (readCodes count codes).mapM rawKeyOf

/-- What a key code of any kind does at a terminal. A code that cannot be read
ends the input. -/
def eventOf? (code : Text.Value) : Option (KeyEvent Text.Value) :=
  match rawKeyOf code with
  | .ok raw => raw.bind fun raw => rawEvent? (isQuit raw) raw
  | .error _ => some .close

end Chip8.Terminal
