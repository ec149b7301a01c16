-- What instructions do whose operands are not whole numbers. Flags choose all
-- registers or none of them, and doubles choose no register; constants lose
-- their fraction where they become bytes or addresses.
import Chip8.Console
import Chip8.Request.Instruction
import Chip8.Request.Words
namespace Chip8

open Text

/-- The registers that an operand names. -/
inductive Registers where
  | one (x : Int)
  | every
  | nothing
  /-- Places are not numbers of this kind. -/
  | misplaced

namespace Registers

/-- The registers that a value names. -/
def ofValue : Value → Registers
  | .flag true => every
  | .flag false => nothing
  | .float _ => misplaced
  | v => one (v.whole?.getD 0)

/-- What is said of a place that is a double. -/
def misplacedProblem : ValueProblem := .noPlace "float64"

/-- The value of the one register that is named. -/
def read (m : Machine) : Registers → Except ValueProblem Int
  | one x => .ok (m.reg x).toNat
  | every | nothing => .error (.notSingle 2)
  | misplaced => .error misplacedProblem

/-- The machine with a byte in the registers that are named. -/
def write (m : Machine) (v : UInt8) : Registers → Except ValueProblem Machine
  | one x => .ok (m.setReg (Machine.register x) v)
  | every => .ok { m with registers := Vector.replicate registerCount v }
  | nothing => .ok m
  | misplaced => .error misplacedProblem

/-- Accepts registers whose comparison has a single answer. -/
def comparable (rs : List Registers) : Except ValueProblem Unit :=
  if rs.any fun | misplaced => true | _ => false then .error misplacedProblem
  else if rs.any fun | nothing => true | _ => false then .error .noAnswers
  else if rs.any fun | every => true | _ => false then .error .manyAnswers
  else .ok ()

end Registers

namespace MadeInstruction

/-- A double as one of single precision holds it. -/
def single (f : Float) : Float := f.toFloat32.toFloat

/-- The whole number of a constant, which may be a double of single precision. -/
def constant (v : Value) : Except ValueProblem Int :=
  match v with
  | .float f => (Value.float (single f)).toWhole
  | v => v.toWhole

/-- The machine with the next instruction skipped if registers compare to each
other, or to a constant, as asked for. -/
def compareAndSkip (m : Machine) (rs : List Registers) (constant : Option Value) (equal : Bool) :
    Except ValueProblem Machine := do
  Registers.comparable rs
  let values ← rs.mapM (·.read m)
  let wanted := match constant with
    | some (.float f) => Number.float (single f)
    | some v => .whole (v.whole?.getD 0)
    | none => .whole (values.getLast?.getD 0)
  return m.skipIf (((Number.whole (values.head?.getD 0)).equal wanted) == equal)

/-- Refuses a range of memory whose length is no whole number. -/
def noRange (m : Machine) (length : Value) : Except Refusal Machine := do
  let _ ← Machine.checkValues (.whole m.index.toNat) length
  .error (.value .noRange)

/-- Where a jump leads that adds the first register. -/
def offsetTarget (m : Machine) (base : Value) : Except ValueProblem Int :=
  let offset := (m.reg 0).toNat
  match base with
  | .float f => (Value.float (f.toFloat32 + offset.toFloat32).toFloat).toWhole
  | v => v.toWhole.map (· + offset)

/-- The effect of an instruction that changes the machine alone. The program
counter is already behind it. -/
def effect (i : MadeInstruction) (m : Machine) : Except Refusal Machine :=
  let x := Registers.ofValue (i.operand .x)
  let y := Registers.ofValue (i.operand .y)
  let nn := i.operand .nn
  let nnn := i.operand .nnn
  let word (v : Int) : UInt16 := (lowWord v).toUInt16
  match i.name with
  | "Goto" => do return { m with pc := word (← ofValue (constant nnn)) }
  | "Call" => do
    let stack ← (m.stack.push m.pc).mapError .fault
    return { m with stack, pc := word (← ofValue (constant nnn)) }
  | "SetI" => do return { m with index := word (← ofValue (constant nnn)) }
  | "JumpV0" => do return { m with pc := word (← ofValue (offsetTarget m nnn)) }
  | "SkipEqConst" => ofValue (compareAndSkip m [x] nn true)
  | "SkipNeqConst" => ofValue (compareAndSkip m [x] nn false)
  | "SkipEqReg" => ofValue (compareAndSkip m [x, y] none true)
  | "SkipNeqReg" => ofValue (compareAndSkip m [x, y] none false)
  | "SetConst" => ofValue do x.write m (lowByte (← nn.toWhole)).toUInt8
  | "AddConst" => ofValue do
    let sum ← (Value.whole (← x.read m)).plus nn
    let low ← sum.bitwise "&" bitAnd (.whole 0xFF)
    x.write m (lowByte (low.whole?.getD 0)).toUInt8
  | "SetRegFromDelay" => ofValue (x.write m m.delay)
  | "RegDump" | "RegLoad" => do noRange m (← ofValue ((i.operand .x).plus (.whole 1)))
  | "Draw" => do
    let _ ← ofValue (x.read m)
    let _ ← ofValue (y.read m)
    noRange m (i.operand .n)
  | "SysCall" => .ok m
  | "ShiftRight" | "ShiftLeft" | "SetDelay" | "SetSound" | "AddToI" | "SetIToFontAddr"
  | "StoreBCD" => do
    let _ ← ofValue (x.read m)
    return m
  | _ => do
    let _ ← ofValue (x.read m)
    let _ ← ofValue (y.read m)
    return m

section
variable {κ σ ρ : Type} [Keypad κ] [Screen σ] [RandomSource ρ]

/-- The effect of an instruction, which may use the devices. -/
def effectWith (i : MadeInstruction) (m : Machine) (d : Devices κ σ ρ) :
    Except Refusal Machine × Devices κ σ ρ :=
  let x := Registers.ofValue (i.operand .x)
  match i.name with
  | "Rand" =>
    let (byte, random) := RandomSource.next d.random
    let masked := ofValue do
      let masked ← (Value.whole byte.toNat).bitwise "&" bitAnd (i.operand .nn)
      x.write m (lowByte (masked.whole?.getD 0)).toUInt8
    (masked, { d with random })
  | "SkipKeyPressed" | "SkipKeyNotPressed" =>
    let (_, keypad) := Keypad.peek d.keypad
    (ofValue ((x.read m).map fun _ => m), { d with keypad })
  | "WaitKey" =>
    let (answer, d) := takeKey m 0 d
    let written := answer.mapError Refusal.fault |>.bind fun taken =>
      ofValue (x.write m (taken.reg 0))
    (written, d)
  | _ => (i.effect m, d)

end

end MadeInstruction

/-- Carries out an instruction that was made by its name. -/
def Console.executeMade {κ σ ρ : Type} [Keypad κ] [Screen σ] [RandomSource ρ]
    (c : Console κ σ ρ) (i : MadeInstruction) : Except Refusal Unit × Console κ σ ρ :=
  match i.validate with
  | .error r => (.error r, c)
  | .ok _ =>
    let waiting := if i.name = "WaitKey" then (Keypad.announcement c.devices.keypad).toList else []
    let c := c.tell (.executingShown c.machine.pc i.text :: waiting)
    match i.plain? with
    | some plain =>
      let (answer, c) := c.finish (Chip8.execute plain c.machine c.devices)
      (answer.mapError .fault, c)
    | none =>
      match i.effectWith c.machine.tick.advance c.devices with
      | (.ok machine, devices) => (.ok (), { c with machine, devices })
      | (.error r, devices) => (.error r, { c with devices })

end Chip8
