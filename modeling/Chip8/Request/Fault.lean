-- Faults made by name, from values of any kind.
import Chip8.Request.Values
namespace Chip8

/-- The parameters of something that is made by its name. -/
def makingOf (name : String) (required : List String) (optional : List (String × Text.Value)) :
    Signature :=
  ⟨name ++ ".__init__", 1, required, optional⟩

/-- A fault that was made by its name. -/
structure MadeFault where
  message : String
  /-- What the fault remembers. -/
  attributes : List (String × Text.Value)

namespace MadeFault

/-- The text of values that are only told. -/
def toldText : List Text.Value → String
  | [] => ""
  | [v] => v.shown
  | vs => "(" ++ String.intercalate ", " (Text.Value.nestedList vs) ++ ")"

/-- A number that is written in base sixteen. -/
def hexNumber (v : Text.Value) : Except Refusal Int := ofValue (v.asWhole 'X')

/-- A fault of a kind with a signature, from the values of its parameters. -/
def ofValues (kind : String) (values : List Text.Value) : Except Refusal String :=
  match kind, values with
  | "InvalidOpcodeError", [word, address] => do
    let address ← match address with
      | .none => pure none
      | v => (hexNumber v).map some
    return Fault.message (.unknownOpcode (← hexNumber word) address)
  | "StackOverflowError", [capacity] => .ok (Fault.overflowText capacity.shown)
  | "MemoryAccessError", [address, length] => do
    return Fault.outsideText (← hexNumber address) length.shown
  | _, _ => .ok (Fault.message .stackUnderflow)

/-- The parameters of the faults that have some of their own. -/
def signature? : String → Option Signature
  | "InvalidOpcodeError" => some (makingOf "InvalidOpcodeError" ["word"] [("address", .none)])
  | "StackOverflowError" => some (makingOf "StackOverflowError" ["capacity"] [])
  | "StackUnderflowError" => some (makingOf "StackUnderflowError" [] [])
  | "MemoryAccessError" =>
    some (makingOf "MemoryAccessError" ["address"] [("length", .whole 1)])
  | _ => none

/-- The kinds of faults that only tell their values. -/
def plainKinds : List String := ["Chip8Error", "InputClosedError"]

/-- The fault of a kind, from values by their place. -/
def ofRequest (kind : String) (placed : List Text.Value) : Except Refusal MadeFault :=
  match signature? kind with
  | none =>
    if plainKinds.contains kind then .ok ⟨toldText placed, []⟩
    else .error (.unknownIn "chip8vm.errors" kind)
  | some s => do
    let values ← s.values ⟨placed, []⟩
    return ⟨← ofValues kind values, s.names.zip values⟩

end MadeFault

end Chip8
