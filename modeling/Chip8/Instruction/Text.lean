-- The written form of instructions, such as `AddReg(x=10, y=11)`: a name and
-- the operands in decimal. Instructions can be built from the same names.
import Chip8.Instruction.Basic
namespace Chip8.Instruction

def name : Instruction → String
  | sysCall _ => "SysCall"
  | clearScreen => "ClearScreen"
  | ret => "Return"
  | goto _ => "Goto"
  | call _ => "Call"
  | skipEqConst .. => "SkipEqConst"
  | skipNeqConst .. => "SkipNeqConst"
  | skipEqReg .. => "SkipEqReg"
  | setConst .. => "SetConst"
  | addConst .. => "AddConst"
  | setReg .. => "SetReg"
  | or .. => "Or"
  | and .. => "And"
  | xor .. => "Xor"
  | addReg .. => "AddReg"
  | subReg .. => "SubReg"
  | shiftRight _ => "ShiftRight"
  | subRegReversed .. => "SubRegReversed"
  | shiftLeft _ => "ShiftLeft"
  | skipNeqReg .. => "SkipNeqReg"
  | setIndex _ => "SetI"
  | jumpOffset _ => "JumpV0"
  | rand .. => "Rand"
  | draw .. => "Draw"
  | skipKeyPressed _ => "SkipKeyPressed"
  | skipKeyNotPressed _ => "SkipKeyNotPressed"
  | getDelay _ => "SetRegFromDelay"
  | waitKey _ => "WaitKey"
  | setDelay _ => "SetDelay"
  | setSound _ => "SetSound"
  | addToIndex _ => "AddToI"
  | setIndexToGlyph _ => "SetIToFontAddr"
  | storeDigits _ => "StoreBCD"
  | dumpRegisters _ => "RegDump"
  | loadRegisters _ => "RegLoad"

/-- An instruction as its name and its operands in brackets. -/
def text (i : Instruction) : String :=
  let shown := i.operands.map fun (o, v) => o.name ++ "=" ++ toString v
  i.name ++ "(" ++ String.intercalate ", " shown ++ ")"

/-- The instruction of a name, with operands given by field. Fails on an
unknown name and on a missing operand. -/
def ofName? (name : String) (operand : Operand → Option Int) : Option Instruction := do
  match name with
  | "SysCall" => return sysCall (← operand .nnn)
  | "ClearScreen" => return clearScreen
  | "Return" => return ret
  | "Goto" => return goto (← operand .nnn)
  | "Call" => return call (← operand .nnn)
  | "SkipEqConst" => return skipEqConst (← operand .x) (← operand .nn)
  | "SkipNeqConst" => return skipNeqConst (← operand .x) (← operand .nn)
  | "SkipEqReg" => return skipEqReg (← operand .x) (← operand .y)
  | "SetConst" => return setConst (← operand .x) (← operand .nn)
  | "AddConst" => return addConst (← operand .x) (← operand .nn)
  | "SetReg" => return setReg (← operand .x) (← operand .y)
  | "Or" => return or (← operand .x) (← operand .y)
  | "And" => return and (← operand .x) (← operand .y)
  | "Xor" => return xor (← operand .x) (← operand .y)
  | "AddReg" => return addReg (← operand .x) (← operand .y)
  | "SubReg" => return subReg (← operand .x) (← operand .y)
  | "ShiftRight" => return shiftRight (← operand .x)
  | "SubRegReversed" => return subRegReversed (← operand .x) (← operand .y)
  | "ShiftLeft" => return shiftLeft (← operand .x)
  | "SkipNeqReg" => return skipNeqReg (← operand .x) (← operand .y)
  | "SetI" => return setIndex (← operand .nnn)
  | "JumpV0" => return jumpOffset (← operand .nnn)
  | "Rand" => return rand (← operand .x) (← operand .nn)
  | "Draw" => return draw (← operand .x) (← operand .y) (← operand .n)
  | "SkipKeyPressed" => return skipKeyPressed (← operand .x)
  | "SkipKeyNotPressed" => return skipKeyNotPressed (← operand .x)
  | "SetRegFromDelay" => return getDelay (← operand .x)
  | "WaitKey" => return waitKey (← operand .x)
  | "SetDelay" => return setDelay (← operand .x)
  | "SetSound" => return setSound (← operand .x)
  | "AddToI" => return addToIndex (← operand .x)
  | "SetIToFontAddr" => return setIndexToGlyph (← operand .x)
  | "StoreBCD" => return storeDigits (← operand .x)
  | "RegDump" => return dumpRegisters (← operand .x)
  | "RegLoad" => return loadRegisters (← operand .x)
  | _ => none

end Chip8.Instruction
