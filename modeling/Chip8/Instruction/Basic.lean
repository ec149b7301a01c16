-- The instruction set: 35 instructions with their operands. An operand is a
-- whole number; it is legal when it fits its bit field. Words decode to legal
-- operands only, instructions built by hand may hold any.
namespace Chip8

/-- The bit fields that hold operands. -/
inductive Operand where
  /-- A register, one nibble. -/
  | x
  /-- Another register, one nibble. -/
  | y
  /-- A constant of one nibble. -/
  | n
  /-- A constant of one byte. -/
  | nn
  /-- An address of twelve bits. -/
  | nnn
deriving DecidableEq, Repr

/-- The largest value that a bit field holds. -/
def Operand.limit : Operand → Int
  | .x | .y | .n => 0xF
  | .nn => 0xFF
  | .nnn => 0xFFF

/-- The name of a bit field. -/
def Operand.name : Operand → String
  | .x => "x"
  | .y => "y"
  | .n => "n"
  | .nn => "nn"
  | .nnn => "nnn"

/-- The instructions. The word of each is written in its comment with the
digits that are fixed and the letters of its operands. -/
inductive Instruction where
  /-- `0NNN`: a call of native code, which this machine does not have. -/
  | sysCall (nnn : Int)
  /-- `00E0`: every pixel goes out. -/
  | clearScreen
  /-- `00EE`: back to the caller. -/
  | ret
  /-- `1NNN`: on to an address. -/
  | goto (nnn : Int)
  /-- `2NNN`: a subroutine at an address. -/
  | call (nnn : Int)
  /-- `3XNN`: skips the next instruction if a register holds a constant. -/
  | skipEqConst (x nn : Int)
  /-- `4XNN`: skips the next instruction unless a register holds a constant. -/
  | skipNeqConst (x nn : Int)
  /-- `5XY0`: skips the next instruction if two registers are equal. -/
  | skipEqReg (x y : Int)
  /-- `6XNN`: a constant into a register. -/
  | setConst (x nn : Int)
  /-- `7XNN`: a constant added to a register, without a carry. -/
  | addConst (x nn : Int)
  /-- `8XY0`: one register into another. -/
  | setReg (x y : Int)
  /-- `8XY1`: the bits of either register. -/
  | or (x y : Int)
  /-- `8XY2`: the bits of both registers. -/
  | and (x y : Int)
  /-- `8XY3`: the bits of one register only. -/
  | xor (x y : Int)
  /-- `8XY4`: a sum, with the carry in the flag. -/
  | addReg (x y : Int)
  /-- `8XY5`: a difference, with the flag set unless it borrows. -/
  | subReg (x y : Int)
  /-- `8XY6`: one bit to the right, with the bit that falls out in the flag. -/
  | shiftRight (x : Int)
  /-- `8XY7`: the other difference, with the flag set unless it borrows. -/
  | subRegReversed (x y : Int)
  /-- `8XYE`: one bit to the left, with the bit that falls out in the flag. -/
  | shiftLeft (x : Int)
  /-- `9XY0`: skips the next instruction unless two registers are equal. -/
  | skipNeqReg (x y : Int)
  /-- `ANNN`: an address into the index. -/
  | setIndex (nnn : Int)
  /-- `BNNN`: on to an address plus the first register. -/
  | jumpOffset (nnn : Int)
  /-- `CXNN`: a random byte, masked. -/
  | rand (x nn : Int)
  /-- `DXYN`: a sprite of some rows at the place two registers name. -/
  | draw (x y n : Int)
  /-- `EX9E`: skips the next instruction if the key in a register is held. -/
  | skipKeyPressed (x : Int)
  /-- `EXA1`: skips the next instruction unless that key is held. -/
  | skipKeyNotPressed (x : Int)
  /-- `FX07`: the delay timer into a register. -/
  | getDelay (x : Int)
  /-- `FX0A`: waits for a key and puts it into a register. -/
  | waitKey (x : Int)
  /-- `FX15`: a register into the delay timer. -/
  | setDelay (x : Int)
  /-- `FX18`: a register into the sound timer. -/
  | setSound (x : Int)
  /-- `FX1E`: a register added to the index. -/
  | addToIndex (x : Int)
  /-- `FX29`: the index to the glyph of a register. -/
  | setIndexToGlyph (x : Int)
  /-- `FX33`: the three decimal digits of a register into memory. -/
  | storeDigits (x : Int)
  /-- `FX55`: the registers up to one of them into memory. -/
  | dumpRegisters (x : Int)
  /-- `FX65`: the registers up to one of them from memory. -/
  | loadRegisters (x : Int)
deriving DecidableEq, Repr

namespace Instruction

/-- The operands of an instruction, in the order of its word. -/
def operands : Instruction → List (Operand × Int)
  | clearScreen | ret => []
  | sysCall nnn | goto nnn | call nnn | setIndex nnn | jumpOffset nnn => [(.nnn, nnn)]
  | skipEqConst x nn | skipNeqConst x nn | setConst x nn | addConst x nn | rand x nn =>
    [(.x, x), (.nn, nn)]
  | skipEqReg x y | skipNeqReg x y | setReg x y | or x y | and x y | xor x y | addReg x y
  | subReg x y | subRegReversed x y => [(.x, x), (.y, y)]
  | draw x y n => [(.x, x), (.y, y), (.n, n)]
  | shiftRight x | shiftLeft x | skipKeyPressed x | skipKeyNotPressed x | getDelay x | waitKey x
  | setDelay x | setSound x | addToIndex x | setIndexToGlyph x | storeDigits x
  | dumpRegisters x | loadRegisters x => [(.x, x)]

/-- Whether a value fits a bit field. -/
def Fits (operand : Operand) (value : Int) : Prop := 0 ≤ value ∧ value ≤ operand.limit

instance (operand : Operand) (value : Int) : Decidable (Fits operand value) :=
  inferInstanceAs (Decidable (_ ∧ _))

/-- Every operand fits its bit field. -/
def Legal (i : Instruction) : Prop := ∀ p ∈ i.operands, Fits p.1 p.2

instance (i : Instruction) : Decidable i.Legal :=
  inferInstanceAs (Decidable (∀ p ∈ i.operands, Fits p.1 p.2))

/-- The first operand that does not fit its bit field. -/
def misfit? (i : Instruction) : Option (Operand × Int) :=
  i.operands.find? fun p => ¬ Fits p.1 p.2

end Instruction

end Chip8
