-- Requests with values that do not suit them are refused. They are answered on
-- the usual platform.
import Chip8.Screen.Room
namespace Chip8

/-- The platform that requests are answered on, unless another one is named. -/
def Platform.usual : Platform where
  holds bytes := bytes < 0x4000000000
  longestSide := 16384
  desktop := (768, 1024)
  holds_of_le h hbytes := decide_eq_true (Nat.lt_of_le_of_lt h (of_decide_eq_true hbytes))
  longestSide_lt := by decide

def ofValue {α : Type} (answer : Except Text.ValueProblem α) : Except Refusal α :=
  answer.mapError .value

/-- The letters of a level are needed to put it into capitals. -/
def levelText (v : Text.Value) : Except Refusal String := ofValue (v.asText "upper")

/-- The values of the parameters of a request. -/
def Signature.values (s : Signature) (g : Given) : Except Refusal (List Text.Value) :=
  (s.bind g).mapError (.request s.title)

/-- The field of a request that has to be there. -/
def needed (request : Text.Value) (name : String) : Except Refusal Text.Value :=
  match request.field? name with
  | some v => .ok v
  | none => .error (.noField name)

/-- The field of a request, or the value that stands for it otherwise. -/
def fieldOr (request : Text.Value) (name : String) (otherwise : Text.Value) : Text.Value :=
  (request.field? name).getD otherwise

end Chip8
