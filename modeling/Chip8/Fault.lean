-- What can go wrong while the machine runs, and the words for it.
import Chip8.Instruction.Text
import Chip8.Text.Figure
import Chip8.Text.Problem
namespace Chip8

/-- Why an instruction was not carried out. -/
inductive Fault where
  /-- A word is no instruction. The address tells where it was fetched. -/
  | unknownOpcode (word : Int) (address : Option Int)
  /-- A call found the call stack full. -/
  | stackOverflow (capacity : Int)
  /-- A return found the call stack empty. -/
  | stackUnderflow
  /-- A place of the call stack does not fit half a word. -/
  | stackPlace (place : Int)
  /-- Some of the bytes at an address are outside memory. -/
  | memoryAccess (address length : Int)
  /-- A wait for a key was called off. -/
  | inputClosed (reason : String)
  /-- An instruction built by hand has an operand that does not fit. -/
  | misfit (i : Instruction) (operand : Operand) (value : Int)
  /-- A key that no register can hold. -/
  | keyNotByte (key : Int)
  /-- A value that stands for a number is of no use. -/
  | value (problem : Text.ValueProblem)
  /-- A wait that nothing can end. -/
  | endlessWait
deriving DecidableEq, Repr

namespace Fault

/-- What is said of a full call stack. -/
def overflowText (capacity : String) : String := "Call stack overflow (capacity " ++ capacity ++ ")"

/-- What is said of bytes outside memory. -/
def outsideText (address : Int) (length : String) : String :=
  "Memory access out of range: 0x" ++ Text.hex 4 address ++ " (+" ++ length ++ ")"

/-- What is said of an operand that does not fit. -/
def misfitText (instruction : String) (operand : Operand) (shown : String) : String :=
  instruction ++ "." ++ operand.name ++ " = " ++ shown ++ " is outside 0..0x"
    ++ Text.hex 0 operand.limit

/-- The wording of a fault. -/
def message : Fault → String
  | unknownOpcode word address =>
    let place := match address with
      | some a => " at 0x" ++ Text.hex 3 a
      | none => ""
    "Unknown opcode 0x" ++ Text.hex 4 word ++ place
  | stackOverflow capacity => overflowText (toString capacity)
  | stackUnderflow => "Return with empty call stack"
  | stackPlace place => Text.ValueProblem.message (.notHalfWord place)
  | memoryAccess address length => outsideText address (toString length)
  | inputClosed reason => reason
  | misfit i operand number => misfitText i.name operand (toString number)
  | keyNotByte key => Text.notByte key
  | value problem => problem.message
  | endlessWait => "wait without timeout and no scheduled event"

/-- Whether the interpreted program is to blame, or the end of its input. A
runner reports these and lets the others pass. -/
def isProgramFault : Fault → Bool
  | unknownOpcode .. | stackOverflow _ | stackUnderflow | memoryAccess .. | inputClosed _ => true
  | stackPlace _ | misfit .. | keyNotByte _ | value _ | endlessWait => false

end Fault

namespace Instruction

/-- Accepts an instruction whose operands fit, and names the first one that
does not. -/
def validate (i : Instruction) : Except Fault Instruction :=
  match i.misfit? with
  | some (operand, value) => .error (.misfit i operand value)
  | none => .ok i

end Instruction

end Chip8
