-- What the parts of the program tell the journal: how urgent it is, which
-- part says it, and the wording.
import Chip8.Fault
namespace Chip8

/-- How urgent a notice is. -/
inductive Level where
  | debug | info | warning | error | critical
deriving DecidableEq, Repr

namespace Level

/-- The place of a level; more urgent levels come later. -/
def rank : Level → Nat
  | debug => 0
  | info => 1
  | warning => 2
  | error => 3
  | critical => 4

def name : Level → String
  | debug => "DEBUG"
  | info => "INFO"
  | warning => "WARNING"
  | error => "ERROR"
  | critical => "CRITICAL"

/-- The levels, the least urgent first. -/
def all : List Level := [debug, info, warning, error, critical]

/-- The level of a name in capitals. -/
def ofName? (name : String) : Option Level := all.find? (·.name = name)

end Level

/-- The kinds of keypads that announce a wait. -/
inductive KeySource where
  /-- Keys that a listener collects. -/
  | listener
  /-- Keys that come with the events of a window. -/
  | window
deriving DecidableEq, Repr

/-- Something that a part of the program tells. -/
inductive Notice where
  /-- An instruction is about to be carried out. -/
  | executing (pc : UInt16) (i : Instruction)
  /-- An instruction, which the text shows, is about to be carried out. -/
  | executingShown (pc : UInt16) (shown : String)
  /-- A word is no instruction. -/
  | unknownOpcode (word : Int)
  /-- A program was too long. -/
  | programTruncated (given kept : Nat)
  /-- A program was read from a file. -/
  | programRead (size : Nat) (file : String)
  /-- A wait for a key begins. -/
  | waitingForKey (source : KeySource)
  /-- A run ends because its input was closed. -/
  | inputClosed (steps : Nat)
  /-- A run ends because of a fault. -/
  | halted (steps : Nat) (pc : UInt16) (fault : Fault)
  /-- A key listener begins. -/
  | listenerStarted
  /-- A key listener ends. -/
  | listenerStopped
  /-- A key that asks to quit was pressed; the text shows the key. -/
  | quitKey (shown : String)
  /-- Keys cannot be read any more; the text shows why. -/
  | readerFailed (shown : String)
deriving DecidableEq, Repr

namespace Notice

/-- How urgent a notice is. -/
def level : Notice → Level
  | executing .. | executingShown .. => .debug
  | unknownOpcode _ | halted .. | readerFailed _ => .error
  | _ => .info

/-- The part of the program that tells a notice. -/
def part : Notice → String
  | executing .. | executingShown .. | programTruncated .. | programRead .. => "chip8vm.emulator"
  | unknownOpcode _ => "chip8vm.decode"
  | waitingForKey .window => "chip8vm.pygame"
  | waitingForKey .listener | listenerStarted | listenerStopped | quitKey _ | readerFailed _ =>
    "chip8vm.keys"
  | inputClosed _ | halted .. => "chip8vm.runner"

/-- The wording of a notice. -/
def text : Notice → String
  | executing pc i => "0x" ++ Text.hex 3 pc.toNat ++ " " ++ i.text
  | executingShown pc shown => "0x" ++ Text.hex 3 pc.toNat ++ " " ++ shown
  | unknownOpcode word => "Unknown opcode 0x" ++ Text.hex 4 word
  | programTruncated given kept =>
    "Program truncated from " ++ toString given ++ " to " ++ toString kept ++ " bytes"
  | programRead size file => "Loaded " ++ toString size ++ " bytes from " ++ file
  | waitingForKey _ => "Waiting for keypress"
  | inputClosed steps => "Input closed after " ++ toString steps ++ " steps, stopping"
  | halted steps pc fault =>
    "Halted after " ++ toString steps ++ " steps at PC 0x" ++ Text.hex 3 pc.toNat ++ ": "
      ++ fault.message
  | listenerStarted => "Started key listener"
  | listenerStopped => "Stopped key listener"
  | quitKey shown => "Quit key " ++ shown ++ " pressed"
  | readerFailed shown => "Key reader failed, stopping listener: " ++ shown

/-- The parts of the program that keep a log of their own. -/
def parts : List String := [
  "chip8vm.decode", "chip8vm.emulator", "chip8vm.keys", "chip8vm.runner", "chip8vm.terminal",
  "chip8vm.pygame"]

end Notice

end Chip8
