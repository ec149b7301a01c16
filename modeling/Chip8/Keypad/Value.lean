-- Keys, and raw keys, that are values of any kind. A register is given the
-- whole number that a value is turned into, and compared with the number that
-- it is. Texts alone name keys.
import Chip8.Keypad.Basic
import Chip8.Keypad.Symbol
import Chip8.Text.Conversion
namespace Chip8

open Text

/-- The whole number that a number is equal to, if there is one. -/
def Text.Number.whole? (n : Number) : Option Int :=
  n.fraction?.bind fun (num, den) => if num % den = 0 then some (num / den) else none

/-- The number that a register is given for a value. A double loses its
fraction, and only its lowest byte counts. -/
def storedKey : Value → Except ValueProblem Int
  | .none => .error (.noEntry Value.none.shown)
  | .float f =>
    match Binary64.ofFloat f with
    | .finite negative mantissa exponent => .ok (truncated negative mantissa exponent % 0x100)
    | _ => .ok 0
  | v => v.toWhole

instance : KeyCode Value where
  ofKey := .whole
  number? v := v.number?.bind (·.whole?)
  stored v := (storedKey v).mapError .value
  isNothing
    | .none => true
    | _ => false

instance : RawSymbol Value where
  key? v := v.text?.bind keyOfText?
  shown := Value.nested

end Chip8
