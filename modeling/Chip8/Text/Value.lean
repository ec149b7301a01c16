-- Values of settings as messages show them. A text stands as it is on its
-- own and between quotes inside a list.
import Chip8.Text.Quoted
import Chip8.Text.Shortest
namespace Chip8.Text

/-- The value of a setting. -/
inductive Value where
  | none
  | flag (b : Bool)
  | whole (v : Int)
  | float (f : Float)
  | text (s : String)
  | list (vs : List Value)
  | record (fields : List (String × Value))
  /-- Entries whose keys need not be texts. -/
  | table (entries : List (Value × Value))
deriving Inhabited

namespace Value

mutual
/-- A value inside another one. -/
def nested : Value → String
  | .none => "None"
  | .flag b => if b then "True" else "False"
  | .whole v => toString v
  | .float f => shortestFloat f
  | .text s => quoted s
  | .list vs => "[" ++ String.intercalate ", " (nestedList vs) ++ "]"
  | .record fields => "\x7b" ++ String.intercalate ", " (nestedFields fields) ++ "\x7d"
  | .table entries => "\x7b" ++ String.intercalate ", " (nestedEntries entries) ++ "\x7d"

/-- Values inside a list. -/
def nestedList : List Value → List String
  | [] => []
  | v :: rest => nested v :: nestedList rest

/-- Named values inside a record. -/
def nestedFields : List (String × Value) → List String
  | [] => []
  | (name, v) :: rest => (quoted name ++ ": " ++ nested v) :: nestedFields rest

/-- Entries inside a table. -/
def nestedEntries : List (Value × Value) → List String
  | [] => []
  | (key, v) :: rest => (nested key ++ ": " ++ nested v) :: nestedEntries rest
end

/-- A value on its own. -/
def shown : Value → String
  | .text s => s
  | v => nested v

/-- The name of a kind of values, as messages show it. -/
def kind : Value → String
  | .none => "NoneType"
  | .flag _ => "bool"
  | .whole _ => "int"
  | .float _ => "float"
  | .text _ => "str"
  | .list _ => "list"
  | .record _ | .table _ => "dict"

/-! ## Reading values -/

/-- Whether a value counts as a yes: all do but the empty ones and zero. -/
def truth : Value → Bool
  | .none => false
  | .flag b => b
  | .whole v => v != 0
  | .float f => f != 0
  | .text s => s != ""
  | .list vs => !vs.isEmpty
  | .record fields => !fields.isEmpty
  | .table entries => !entries.isEmpty

/-- The whole number of a value. A flag counts as zero or one. -/
def whole? : Value → Option Int
  | .whole v => some v
  | .flag b => some (if b then 1 else 0)
  | _ => Option.none

/-- The number of a value as a double. -/
def float? : Value → Option Float
  | .float f => some f
  | v => v.whole?.map Float.ofInt

def text? : Value → Option String
  | .text s => some s
  | _ => Option.none

def elements : Value → List Value
  | .list vs => vs
  | _ => []

/-- The fields of a value that is a record. -/
def fields : Value → List (String × Value)
  | .record fields => fields
  | _ => []

/-- The field of a name, if a value is a record that has one. -/
def field? (v : Value) (name : String) : Option Value := v.fields.lookup name

/-- The field of a name; a missing one is nothing. -/
def field (v : Value) (name : String) : Value := (v.field? name).getD .none

end Value

end Chip8.Text
