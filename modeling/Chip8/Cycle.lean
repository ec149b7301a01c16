-- One cycle of the machine: the timers tick, an instruction is fetched and
-- decoded, or given by hand, and then it takes effect. A fault leaves the
-- machine as it was; the devices are given back in either case.
import Chip8.Arithmetic
import Chip8.Instruction.Encoding
import Chip8.Keypad.Basic
import Chip8.Machine.Font
import Chip8.Random.Source
import Chip8.Screen.Basic
namespace Chip8

/-- The devices of a machine. -/
structure Devices (κ σ ρ : Type) where
  keypad : κ
  screen : σ
  random : ρ

/-! ## Sprites -/

/-- The number of pixels in a row of a sprite. -/
def spriteWidth : Nat := 8

/-- A pixel of a sprite row, the leftmost one from the highest bit. -/
def spriteBit (row : UInt8) (column : Nat) : Int :=
  ((row.toNat >>> (7 - column)) &&& 1 : Nat)

/-- The pixels of a sprite with its corner at a place: column, row and bit
of each, row by row. -/
def spriteCells (x y : Int) (rows : List UInt8) : List (Int × Int × Int) :=
  rows.zipIdx.flatMap fun (row, down) =>
    (List.range spriteWidth).map fun (right : Nat) =>
      (x + right, y + down, spriteBit row right)

/-- Flips one pixel if its bit is set, and notes if that puts it out. -/
def plot {σ : Type} [Screen σ] (s : σ × Bool) (cell : Int × Int × Int) : σ × Bool :=
  let (x, y, bit) := cell
  let old := Screen.get s.1 x y
  let new := bitXor old bit
  (Screen.set s.1 x y new, s.2 || (old == 1 && new == 0))

/-- Flips the pixels of a sprite. The second answer tells whether a lit pixel
went out. -/
def blit {σ : Type} [Screen σ] (screen : σ) (cells : List (Int × Int × Int)) : σ × Bool :=
  cells.foldl plot (screen, false)

/-! ## Effects -/

namespace Machine

/-- The machine with the next instruction skipped if a condition holds. -/
def skipIf (m : Machine) (condition : Bool) : Machine := if condition then m.advance else m

/-- The machine after an operation on registers. The flag is written last,
so it wins where it is also the result. -/
def compute (m : Machine) (op : Arithmetic) (x : Int) (y : Option Int) : Machine :=
  let other := match y with
    | some y => ((m.reg y).toNat : Int)
    | none => 0
  let result := op.apply (m.reg x).toNat other
  let m := m.setReg (register x) (lowByte result.value).toUInt8
  match result.flag with
  | some flag => m.setReg flagRegister (lowByte flag).toUInt8
  | none => m

/-- The three decimal digits of a byte. -/
def digits (v : UInt8) : List UInt8 := [v / 100, v / 10 % 10, v % 10]

def firstRegisters (m : Machine) (count : Nat) : List UInt8 := m.registers.toList.take count

/-- The number of registers up to the one that an operand names. -/
def countUpTo (x : Int) : Nat := (register x).val + 1

/-- Accepts a number of bytes from the index on, if all are in memory. -/
def checkAtIndex (m : Machine) (length : Int) : Except Fault Int :=
  checkRange m.index.toNat length

end Machine

section
variable {κ σ ρ : Type} [Keypad κ] [Screen σ] [RandomSource ρ]

open Machine

/-- Waits for a key and puts it into a register. -/
def takeKey (m : Machine) (x : Int) (d : Devices κ σ ρ) :
    Except Fault Machine × Devices κ σ ρ :=
  let (answer, keypad) := Keypad.wait d.keypad
  let d := { d with keypad }
  match answer with
  | .error f => (.error f, d)
  | .ok key =>
    if 0 ≤ key ∧ key ≤ 0xFF then (.ok (m.setReg (register x) key.toNat.toUInt8), d)
    else (.error (.keyNotByte key), d)

/-- Draws a sprite from the index on at the place that two registers name,
and puts into the flag whether a lit pixel went out. -/
def drawSprite (m : Machine) (x y n : Int) (d : Devices κ σ ρ) :
    Except Fault Machine × Devices κ σ ρ :=
  match m.checkAtIndex n with
  | .error f => (.error f, d)
  | .ok _ =>
    let rows := m.bytesAt m.index.toNat n.toNat
    let (screen, hit) := blit d.screen (spriteCells (m.reg x).toNat (m.reg y).toNat rows)
    (.ok (m.setReg flagRegister (if hit then 1 else 0)), { d with screen })

/-- The effect of an instruction. The program counter is already behind it,
so jumps are absolute. -/
def effect (i : Instruction) (m : Machine) (d : Devices κ σ ρ) :
    Except Fault Machine × Devices κ σ ρ :=
  match i with
  | .sysCall _ => (.ok m, d)
  | .clearScreen => (.ok m, { d with screen := Screen.clear d.screen })
  | .ret => (m.stack.pop.map fun (address, stack) => { m with stack, pc := address }, d)
  | .goto nnn => (.ok { m with pc := (lowWord nnn).toUInt16 }, d)
  | .call nnn =>
    (m.stack.push m.pc |>.map fun stack => { m with stack, pc := (lowWord nnn).toUInt16 }, d)
  | .skipEqConst x nn => (.ok (m.skipIf (((m.reg x).toNat : Int) = nn)), d)
  | .skipNeqConst x nn => (.ok (m.skipIf (((m.reg x).toNat : Int) ≠ nn)), d)
  | .skipEqReg x y => (.ok (m.skipIf (m.reg x = m.reg y)), d)
  | .skipNeqReg x y => (.ok (m.skipIf (m.reg x ≠ m.reg y)), d)
  | .setConst x nn => (.ok (m.setReg (register x) (lowByte nn).toUInt8), d)
  | .addConst x nn => (.ok (m.setReg (register x) (lowByte ((m.reg x).toNat + nn)).toUInt8), d)
  | .setReg x y => (.ok (m.compute .set x (some y)), d)
  | .or x y => (.ok (m.compute .or x (some y)), d)
  | .and x y => (.ok (m.compute .and x (some y)), d)
  | .xor x y => (.ok (m.compute .xor x (some y)), d)
  | .addReg x y => (.ok (m.compute .add x (some y)), d)
  | .subReg x y => (.ok (m.compute .subtract x (some y)), d)
  | .shiftRight x => (.ok (m.compute .shiftRight x none), d)
  | .subRegReversed x y => (.ok (m.compute .subtractReversed x (some y)), d)
  | .shiftLeft x => (.ok (m.compute .shiftLeft x none), d)
  | .setIndex nnn => (.ok { m with index := (lowWord nnn).toUInt16 }, d)
  | .jumpOffset nnn => (.ok { m with pc := (lowWord (nnn + (m.reg 0).toNat)).toUInt16 }, d)
  | .rand x nn =>
    let (byte, random) := RandomSource.next d.random
    (.ok (m.setReg (register x) (byte &&& (lowByte nn).toUInt8)), { d with random })
  | .draw x y n => drawSprite m x y n d
  | .skipKeyPressed x =>
    let (key, keypad) := Keypad.peek d.keypad
    (.ok (m.skipIf (key = some ((m.reg x).toNat : Int))), { d with keypad })
  | .skipKeyNotPressed x =>
    let (key, keypad) := Keypad.peek d.keypad
    (.ok (m.skipIf (key ≠ some ((m.reg x).toNat : Int))), { d with keypad })
  | .getDelay x => (.ok (m.setReg (register x) m.delay), d)
  | .waitKey x => takeKey m x d
  | .setDelay x => (.ok { m with delay := m.reg x }, d)
  | .setSound x => (.ok { m with sound := m.reg x }, d)
  | .addToIndex x => (.ok { m with index := m.index + (m.reg x).toUInt16 }, d)
  | .setIndexToGlyph x =>
    (.ok { m with index := (fontStart + (m.reg x).toNat * glyphSize).toUInt16 }, d)
  | .storeDigits x =>
    (m.checkAtIndex 3 |>.map fun _ => m.writeBytes m.index.toNat (digits (m.reg x)), d)
  | .dumpRegisters x =>
    (m.checkAtIndex (countUpTo x) |>.map fun _ =>
      m.writeBytes m.index.toNat (m.firstRegisters (countUpTo x)), d)
  | .loadRegisters x =>
    (m.checkAtIndex (countUpTo x) |>.map fun _ =>
      { m with
        registers := overlay m.registers 0 (m.bytesAt m.index.toNat (countUpTo x)) }, d)

/-! ## Cycles -/

/-- Carries out an instruction on a machine whose timers have ticked: the
program counter moves on, then the instruction takes effect. -/
def perform (i : Instruction) (m : Machine) (d : Devices κ σ ρ) :
    Except Fault Machine × Devices κ σ ρ :=
  effect i m.advance d

/-- The instruction at the program counter. -/
def Machine.upcoming (m : Machine) : Except Fault Instruction :=
  match m.fetch with
  | .error f => .error f
  | .ok (high, low) =>
    match Instruction.ofFields? (.ofBytes high.toNat low.toNat) with
    | some i => .ok i
    | none => .error (.unknownOpcode (joinBytes high.toNat low.toNat) (some m.pc.toNat))

/-- A cycle with an instruction given by hand, whose operands are checked. -/
def execute (i : Instruction) (m : Machine) (d : Devices κ σ ρ) :
    Except Fault Machine × Devices κ σ ρ :=
  match i.validate with
  | .error f => (.error f, d)
  | .ok i => perform i m.tick d

/-- A cycle with the instruction at the program counter. -/
def step (m : Machine) (d : Devices κ σ ρ) : Except Fault Machine × Devices κ σ ρ :=
  match m.tick.upcoming with
  | .error f => (.error f, d)
  | .ok i => perform i m.tick d

end

end Chip8
