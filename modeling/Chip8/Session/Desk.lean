-- A console of any devices, its runs, and the loggers that write down its
-- journal, with the lines written so far.
import Chip8.Journal.RunLog
import Chip8.Keypad.Any
import Chip8.Keypad.Value
import Chip8.Run.Runner
import Chip8.Screen.Any
namespace Chip8

/-- A console with any devices. -/
abbrev AnyConsole := Console (AnyKeypad Text.Value Float) AnyScreen AnyRandom

namespace AnyConsole

/-- The key that is held now, as the keypad gives it. -/
def peek (c : AnyConsole) : Option Text.Value × AnyConsole :=
  let (key, keypad) := c.devices.keypad.peek
  (key, { c with devices := { c.devices with keypad } })

/-- Waits for a key outside of any program, and gives it as the keypad does. -/
def wait (c : AnyConsole) : Except Fault Text.Value × AnyConsole :=
  let (key, keypad) := c.devices.keypad.wait
  let c := c.tell c.devices.keypad.announcement.toList
  (key, { c with devices := { c.devices with keypad } })

/-- Shows the screen, unless it cannot be shown. -/
def shown (c : AnyConsole) : Except Refusal Unit × AnyConsole :=
  match c.devices.screen.problem? with
  | some r => (.error r, c)
  | none => (.ok (), c.refresh)

end AnyConsole

/-! ## Runs -/

/-- Why a session ended early. -/
inductive SessionError where
  | refusal (r : Refusal)
  | fault (f : Fault)
  /-- The run took more turns than were allowed. -/
  | unfinished
deriving DecidableEq, Repr

/-- A run of at most `limit` turns. A screen that cannot be shown, of which
`problem` tells why, ends it where it would be shown. -/
def Host.play {ε : Type} (h : Host ε Float) (problem : Option Refusal) (r : Rates Float)
    (limit : Nat) (e : ε) : Except SessionError Nat × ε :=
  match problem with
  | none =>
    match h.run r limit e with
    | .stopped steps e => (.ok steps, e)
    | .failed f e => (.error (.fault f), e)
    | .going _ e => (.error .unfinished, e)
  | some why =>
    match h.failing.run r limit (e, false) with
    | .failed f (e, _) => (.error (.fault f), e)
    | .stopped _ (e, _) => (.error (.refusal why), e)
    | .going _ (e, tried) => (.error (if tried then .refusal why else .unfinished), e)

/-! ## Desks -/

/-- A line and the stream that it was written to. -/
abbrev LogLine := Stream × String

/-- A console at work. -/
structure Desk where
  console : AnyConsole
  registry : Registry
  /-- The lines written so far, the latest in front. -/
  lines : List LogLine

namespace Desk

def keyboard (d : Desk) : Keyboard Text.Value Float := d.console.devices.keypad.keyboard

/-- Why the screen of the console cannot be shown. -/
def problem? (d : Desk) : Option Refusal := d.console.devices.screen.problem?

/-- The time of the console's clock. -/
def now (d : Desk) : Float := d.keyboard.now

/-- The desk with its keyboard changed. -/
def mapKeyboard (f : Keyboard Text.Value Float → Keyboard Text.Value Float) (d : Desk) : Desk :=
  let c := d.console
  { d with console :=
      { c with devices := { c.devices with keypad := c.devices.keypad.mapKeyboard f } } }

/-- The desk after some time. -/
def advance (d : Desk) (span : Float) : Desk := d.mapKeyboard (·.advance span)

/-- Writes lines. -/
def write (d : Desk) (lines : List LogLine) : Desk :=
  { d with lines := lines.reverse ++ d.lines }

/-- Writes the lines of a run log. -/
def writeRun (d : Desk) (r : RunLog) (lines : List String) : Desk :=
  d.write (lines.map fun line => (r.logger.stream, line))

/-- Writes down the journal of the console. The log clock need not be the
clock of the console. -/
def flush (d : Desk) (now : Float) : Desk :=
  let lines := d.console.journal.reverse.filterMap (d.registry.lineOf now)
  { d with console := { d.console with journal := [] } }.write lines

/-- The desk after something was done with its console. -/
def act {α : Type} (d : Desk) (now : Float) (f : AnyConsole → α × AnyConsole) : α × Desk :=
  let (answer, console) := f d.console
  (answer, { d with console }.flush now)

end Desk

end Chip8
