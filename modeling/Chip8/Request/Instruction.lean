-- Instructions made by name, with operands that are values of any kind.
import Chip8.Request.Fault
import Chip8.Text.Conversion
namespace Chip8

open Text

/-- An instruction that was made by its name. -/
structure MadeInstruction where
  name : String
  operands : List (Operand × Value)

namespace MadeInstruction

/-- The name of what all instructions have in common. It makes nothing that
could be carried out. -/
def commonName : String := "Instruction"

def operandsOf? (name : String) : Option (List Operand) :=
  (Instruction.ofName? name fun _ => some 0).map fun i => i.operands.map (·.1)

/-- What else the names of instructions may stand for, and its kind. -/
def otherNames : List (String × String) := [
  ("OPERAND_LIMITS", "dict"), ("dataclasses", "module"), ("struct", "module")]

/-- The instruction of a name with operands given by name. -/
def ofNamed (name : String) (named : List (String × Value)) : Except Refusal MadeInstruction :=
  match operandsOf? name, otherNames.lookup name with
  | some operands, _ => do
    let values ← (makingOf name (operands.map (·.name)) []).values ⟨[], named⟩
    return ⟨name, operands.zip values⟩
  | none, some kind => .error (.value (.noCall kind))
  | none, none =>
    if name ≠ commonName then .error (.unknownIn "chip8vm.instruction" name)
    else if named.isEmpty then .ok ⟨name, []⟩
    else .error (.request name .none)

/-- The instruction that a request describes. -/
def ofRequest (request : Value) : Except Refusal MadeInstruction := do
  match ← needed request "name" with
  | .text name => ofNamed name (request.field "args").fields
  | v => .error (.value (.noName v.kind))

/-- The written form: a name and the operands in brackets. -/
def text (i : MadeInstruction) : String :=
  let shown := i.operands.map fun (o, v) => o.name ++ "=" ++ v.nested
  i.name ++ "(" ++ String.intercalate ", " shown ++ ")"

/-- Whether two instructions have one name and equal operands. What has no
operands to compare equals nothing. -/
def same (i j : MadeInstruction) : Bool :=
  i.name == j.name && i.name != commonName &&
    Value.sameList (i.operands.map (·.2)) (j.operands.map (·.2))

/-- Accepts an operand that is a number and fits its bit field. -/
def checkOperand (name : String) (operand : Operand) (v : Value) : Except Refusal Unit := do
  let fits ← ofValue do
    if ← (Value.whole 0).isAtMost v then v.isAtMost (.whole operand.limit) else return false
  if fits then .ok () else .error (.operandMisfit name operand v.nested)

/-- Accepts an instruction whose operands fit. -/
def validate (i : MadeInstruction) : Except Refusal MadeInstruction := do
  if i.name = commonName then .error .noOperands
  else
    i.operands.forM fun (operand, v) => checkOperand i.name operand v
    return i

/-- The operand of a bit field. -/
def operand (i : MadeInstruction) (field : Operand) : Value := (i.operands.lookup field).getD .none

/-- The instruction itself, if its operands are whole numbers. Flags count as
such where they are no registers. -/
def plain? (i : MadeInstruction) : Option Instruction :=
  let counts := i.name = "RegDump" ∨ i.name = "RegLoad"
  let numbers := i.operands.mapM fun (operand, v) =>
    match operand, v with
    | .x, .flag _ | .y, .flag _ => if counts then v.whole?.map (operand, ·) else none
    | _, _ => v.whole?.map (operand, ·)
  numbers.bind fun numbers => Instruction.ofName? i.name fun o => numbers.lookup o

end MadeInstruction

end Chip8
