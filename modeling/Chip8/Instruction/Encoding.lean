-- Instruction words. `encode` writes a legal instruction as its word,
-- `ofFields?` reads the fields of a word, and `patterns` lists the words that
-- stand for an instruction by the bits that are fixed in them.
import Chip8.Fault
import Chip8.Word
namespace Chip8

namespace Instruction

/-! ## Writing -/

/-- The word of an instruction. A word that carries a register it does not
use has zero there. -/
def encode : Instruction → Int
  | sysCall nnn => nnn
  | clearScreen => 0x00E0
  | ret => 0x00EE
  | goto nnn => 0x1000 + nnn
  | call nnn => 0x2000 + nnn
  | skipEqConst x nn => 0x3000 + 0x100 * x + nn
  | skipNeqConst x nn => 0x4000 + 0x100 * x + nn
  | skipEqReg x y => 0x5000 + 0x100 * x + 0x10 * y
  | setConst x nn => 0x6000 + 0x100 * x + nn
  | addConst x nn => 0x7000 + 0x100 * x + nn
  | setReg x y => 0x8000 + 0x100 * x + 0x10 * y
  | or x y => 0x8001 + 0x100 * x + 0x10 * y
  | and x y => 0x8002 + 0x100 * x + 0x10 * y
  | xor x y => 0x8003 + 0x100 * x + 0x10 * y
  | addReg x y => 0x8004 + 0x100 * x + 0x10 * y
  | subReg x y => 0x8005 + 0x100 * x + 0x10 * y
  | shiftRight x => 0x8006 + 0x100 * x
  | subRegReversed x y => 0x8007 + 0x100 * x + 0x10 * y
  | shiftLeft x => 0x800E + 0x100 * x
  | skipNeqReg x y => 0x9000 + 0x100 * x + 0x10 * y
  | setIndex nnn => 0xA000 + nnn
  | jumpOffset nnn => 0xB000 + nnn
  | rand x nn => 0xC000 + 0x100 * x + nn
  | draw x y n => 0xD000 + 0x100 * x + 0x10 * y + n
  | skipKeyPressed x => 0xE09E + 0x100 * x
  | skipKeyNotPressed x => 0xE0A1 + 0x100 * x
  | getDelay x => 0xF007 + 0x100 * x
  | waitKey x => 0xF00A + 0x100 * x
  | setDelay x => 0xF015 + 0x100 * x
  | setSound x => 0xF018 + 0x100 * x
  | addToIndex x => 0xF01E + 0x100 * x
  | setIndexToGlyph x => 0xF029 + 0x100 * x
  | storeDigits x => 0xF033 + 0x100 * x
  | dumpRegisters x => 0xF055 + 0x100 * x
  | loadRegisters x => 0xF065 + 0x100 * x

/-! ## Patterns -/

/-- A word pattern: the bits that are fixed, and their values. -/
structure Pattern where
  mask : Nat
  value : Nat
deriving DecidableEq, Repr

/-- A word has the fixed bits of a pattern. -/
def Pattern.Matches (p : Pattern) (word : Nat) : Prop := word &&& p.mask = p.value

instance (p : Pattern) (word : Nat) : Decidable (p.Matches word) :=
  inferInstanceAs (Decidable (_ = _))

/-- The 35 patterns, in the order of the instruction set. -/
def patterns : List Pattern := [
  ⟨0xF000, 0x0000⟩, ⟨0xFFFF, 0x00E0⟩, ⟨0xFFFF, 0x00EE⟩, ⟨0xF000, 0x1000⟩, ⟨0xF000, 0x2000⟩,
  ⟨0xF000, 0x3000⟩, ⟨0xF000, 0x4000⟩, ⟨0xF00F, 0x5000⟩, ⟨0xF000, 0x6000⟩, ⟨0xF000, 0x7000⟩,
  ⟨0xF00F, 0x8000⟩, ⟨0xF00F, 0x8001⟩, ⟨0xF00F, 0x8002⟩, ⟨0xF00F, 0x8003⟩, ⟨0xF00F, 0x8004⟩,
  ⟨0xF00F, 0x8005⟩, ⟨0xF00F, 0x8006⟩, ⟨0xF00F, 0x8007⟩, ⟨0xF00F, 0x800E⟩, ⟨0xF00F, 0x9000⟩,
  ⟨0xF000, 0xA000⟩, ⟨0xF000, 0xB000⟩, ⟨0xF000, 0xC000⟩, ⟨0xF000, 0xD000⟩, ⟨0xF0FF, 0xE09E⟩,
  ⟨0xF0FF, 0xE0A1⟩, ⟨0xF0FF, 0xF007⟩, ⟨0xF0FF, 0xF00A⟩, ⟨0xF0FF, 0xF015⟩, ⟨0xF0FF, 0xF018⟩,
  ⟨0xF0FF, 0xF01E⟩, ⟨0xF0FF, 0xF029⟩, ⟨0xF0FF, 0xF033⟩, ⟨0xF0FF, 0xF055⟩, ⟨0xF0FF, 0xF065⟩]

/-! ## Reading -/

/-- The family of native calls, which two words of the machine's own share. -/
def ofSystem (f : Fields) : Instruction :=
  if f.raw = 0x00E0 then clearScreen
  else if f.raw = 0x00EE then ret
  else sysCall f.nnn

/-- The family of register arithmetic, by the last nibble. -/
def ofArithmetic? (f : Fields) : Option Instruction :=
  match f.n with
  | 0x0 => some (setReg f.x f.y)
  | 0x1 => some (or f.x f.y)
  | 0x2 => some (and f.x f.y)
  | 0x3 => some (xor f.x f.y)
  | 0x4 => some (addReg f.x f.y)
  | 0x5 => some (subReg f.x f.y)
  | 0x6 => some (shiftRight f.x)
  | 0x7 => some (subRegReversed f.x f.y)
  | 0xE => some (shiftLeft f.x)
  | _ => none

/-- The family of key tests, by the last byte. -/
def ofKeyTest? (f : Fields) : Option Instruction :=
  match f.nn with
  | 0x9E => some (skipKeyPressed f.x)
  | 0xA1 => some (skipKeyNotPressed f.x)
  | _ => none

/-- The family of timers, keys, the index and blocks of registers, by the
last byte. -/
def ofService? (f : Fields) : Option Instruction :=
  match f.nn with
  | 0x07 => some (getDelay f.x)
  | 0x0A => some (waitKey f.x)
  | 0x15 => some (setDelay f.x)
  | 0x18 => some (setSound f.x)
  | 0x1E => some (addToIndex f.x)
  | 0x29 => some (setIndexToGlyph f.x)
  | 0x33 => some (storeDigits f.x)
  | 0x55 => some (dumpRegisters f.x)
  | 0x65 => some (loadRegisters f.x)
  | _ => none

/-- The instruction of a word, by its fields. Not every word is one. -/
def ofFields? (f : Fields) : Option Instruction :=
  match f.family with
  | 0x0 => some (ofSystem f)
  | 0x1 => some (goto f.nnn)
  | 0x2 => some (call f.nnn)
  | 0x3 => some (skipEqConst f.x f.nn)
  | 0x4 => some (skipNeqConst f.x f.nn)
  | 0x5 => if f.n = 0 then some (skipEqReg f.x f.y) else none
  | 0x6 => some (setConst f.x f.nn)
  | 0x7 => some (addConst f.x f.nn)
  | 0x8 => ofArithmetic? f
  | 0x9 => if f.n = 0 then some (skipNeqReg f.x f.y) else none
  | 0xA => some (setIndex f.nnn)
  | 0xB => some (jumpOffset f.nnn)
  | 0xC => some (rand f.x f.nn)
  | 0xD => some (draw f.x f.y f.n)
  | 0xE => ofKeyTest? f
  | 0xF => ofService? f
  | _ => none

/-! ## Decoding -/

/-- The instruction of some fields, or the fault that tells their word. -/
def ofFields (f : Fields) : Except Fault Instruction :=
  match ofFields? f with
  | some i => .ok i
  | none => .error (.unknownOpcode f.raw none)

/-- The instruction of a word. Only the lowest 16 bits count. -/
def ofWord (word : Int) : Except Fault Instruction := ofFields (.ofWord word)

/-- The instruction of two bytes. Only the lowest 8 bits of each count. -/
def ofBytes (high low : Int) : Except Fault Instruction := ofFields (.ofBytes high low)

end Instruction

end Chip8
