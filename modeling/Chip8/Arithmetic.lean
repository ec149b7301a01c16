-- The nine operations on two registers. Each gives the new value of the
-- first register and, if it touches the flag, the new flag. They are defined
-- for whole numbers of any size and sign; on bytes they stay bytes.
import Chip8.Word
import Chip8.Instruction.Basic
namespace Chip8

/-- A result, and the flag if the operation sets it. -/
structure Computed where
  value : Int
  flag : Option Int
deriving DecidableEq, Repr

/-- The operations on two registers. A shift looks at the first one only. -/
inductive Arithmetic where
  | set | or | and | xor | add | subtract | shiftRight | subtractReversed | shiftLeft
deriving DecidableEq, Repr

namespace Arithmetic

/-- The operations by name. -/
def named : List (String × Arithmetic) := [
  ("set", set), ("or", or), ("and", and), ("xor", xor), ("add", add), ("sub_xy", subtract),
  ("shift_right", shiftRight), ("sub_yx", subtractReversed), ("shift_left", shiftLeft)]

/-- The flag that tells whether a condition holds. -/
def flagOf (p : Prop) [Decidable p] : Int := if p then 1 else 0

/-- What an operation makes of two values. -/
def apply : Arithmetic → Int → Int → Computed
  | set, _, b => ⟨b, none⟩
  | or, a, b => ⟨bitOr a b, none⟩
  | and, a, b => ⟨bitAnd a b, none⟩
  | xor, a, b => ⟨bitXor a b, none⟩
  | add, a, b => ⟨lowByte (a + b), some (flagOf (0xFF < a + b))⟩
  | subtract, a, b => ⟨lowByte (a - b), some (flagOf (b ≤ a))⟩
  | shiftRight, a, _ => ⟨a >>> (1 : Nat), some (bitAnd a 1)⟩
  | subtractReversed, a, b => ⟨lowByte (b - a), some (flagOf (a ≤ b))⟩
  | shiftLeft, a, _ => ⟨lowByte (2 * a), some (bitAnd a 0x80 >>> (7 : Nat))⟩

/-- The operation of an instruction, with the register it changes and the
register it reads. A shift carries no second register. -/
def ofInstruction? : Instruction → Option (Arithmetic × Int × Option Int)
  | .setReg x y => some (set, x, some y)
  | .or x y => some (or, x, some y)
  | .and x y => some (and, x, some y)
  | .xor x y => some (xor, x, some y)
  | .addReg x y => some (add, x, some y)
  | .subReg x y => some (subtract, x, some y)
  | .shiftRight x => some (shiftRight, x, none)
  | .subRegReversed x y => some (subtractReversed, x, some y)
  | .shiftLeft x => some (shiftLeft, x, none)
  | _ => none

end Arithmetic

end Chip8
