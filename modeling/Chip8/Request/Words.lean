-- Requests about instruction words, and about the functions behind them, with
-- values of any kind.
import Chip8.Arithmetic
import Chip8.Instruction.Encoding
import Chip8.Machine.Basic
import Chip8.Text.Conversion
import Chip8.Request.Values
namespace Chip8

open Text

/-! ## Words -/

def Fields.ofValue (word : Value) : Except Refusal Fields :=
  (Chip8.ofValue word.toWhole).map .ofWord

/-- The fields of the word that two bytes make. -/
def Fields.ofValues (high low : Value) : Except Refusal Fields := do
  return .ofBytes (← Chip8.ofValue high.toWhole) (← Chip8.ofValue low.toWhole)

/-- The lowest byte of a value that has bits. -/
def byteOfValue (v : Value) : Except Refusal Int :=
  (ofValue (v.bitwise "&" bitAnd (.whole 0xFF))).map fun byte => byte.whole?.getD 0

/-- The word that two bytes make. -/
def joinValues (high low : Value) : Except Refusal Nat := do
  return joinBytes (← byteOfValue high) (← byteOfValue low)

/-- The words from a first one on, each a step behind the one before. -/
def steppedWords (count first step : Value) : Except Refusal (List Value) := do
  let count ← ofValue count.toCount
  (List.range count.toNat).mapM fun k => ofValue (step.times k >>= first.plus)

/-- What words stand for, one after the other, up to one that is no number.
The words that are no instructions are faults of their own. -/
def decodeValues : List Value → Except Refusal Unit × List (Except Fault Instruction)
  | [] => (.ok (), [])
  | word :: rest =>
    match word.toWhole with
    | .error p => (.error (.value p), [])
    | .ok word =>
      let (answer, decoded) := decodeValues rest
      (answer, Instruction.ofWord word :: decoded)

/-! ## Memory -/

/-- Accepts the bytes from an address on if all of them are in memory. Their
number need not be whole. -/
def Machine.checkValues (address length : Value) : Except Refusal Int := do
  let address ← ofValue address.toWhole
  if address < 0 then .error (.outsideMemory address length.shown)
  else
    let behind ← ofValue ((Value.whole address).plus length)
    if ← ofValue (behind.isAbove (.whole memorySize)) then
      .error (.outsideMemory address length.shown)
    else return address

/-! ## Arithmetic -/

/-- A result, and the flag if the operation sets it, as values. -/
abbrev ComputedValue := Value × Value

namespace Arithmetic

/-- The flag that tells whether a condition holds, as a value. -/
def flagValue (holds : Bool) : Value := .whole (if holds then 1 else 0)

/-- The lowest byte of the answer of an operation. -/
def lowByteOf (answer : Except ValueProblem Value) : Except ValueProblem Value :=
  answer >>= (·.bitwise "&" bitAnd (.whole 0xFF))

/-- A bit of a value, as a flag. -/
def bitOf (v : Value) (mask shift : Nat) : Except ValueProblem Value :=
  (v.bitwise "&" bitAnd (.whole mask)).map fun bit =>
    .whole ((bit.whole?.getD 0 : Int) >>> shift : Int)

/-- What an operation makes of two values. On whole numbers it is what the
operation makes of them. -/
def applyValues (op : Arithmetic) (v w : Value) : Except ValueProblem ComputedValue :=
  match op with
  | set => .ok (w, .none)
  | or => return (← v.bitwise "|" bitOr w, .none)
  | and => return (← v.bitwise "&" bitAnd w, .none)
  | xor => return (← v.bitwise "^" bitXor w, .none)
  | add => do
    let sum ← v.plus w
    let carry ← sum.isAbove (.whole 0xFF)
    return (← lowByteOf (.ok sum), flagValue carry)
  | subtract => do
    let enough ← v.isAtLeast w
    return (← lowByteOf (v.minus w), flagValue enough)
  | subtractReversed => do
    let enough ← w.isAtLeast v
    return (← lowByteOf (w.minus v), flagValue enough)
  | shiftRight => do
    let bit ← bitOf v 1 0
    return (.whole ((v.whole?.getD 0 : Int) >>> (1 : Nat) : Int), bit)
  | shiftLeft => do
    let bit ← bitOf v 0x80 7
    return (← lowByteOf (.ok (.whole (2 * v.whole?.getD 0))), bit)

/-- The operation of a name. -/
def ofName (name : String) : Except Refusal Arithmetic :=
  match named.lookup name with
  | some op => .ok op
  | none => .error (.unknownIn "chip8vm.instructions.alu" ("alu_" ++ name))

/-- What an operation makes of each value of some with each of others. -/
def table (op : Arithmetic) (vs ws : Value) : Except Refusal (List (List ComputedValue)) := do
  (← ofValue vs.toElements).mapM fun v => do
    (← ofValue ws.toElements).mapM fun w => ofValue (op.applyValues v w)

end Arithmetic

end Chip8
