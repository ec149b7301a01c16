-- What can be given with a request: values by their place and values by
-- name, against the parameters that the request has.
import Chip8.Text.Value
namespace Chip8

/-- The values given with a request. -/
structure Given where
  placed : List Text.Value
  named : List (String × Text.Value)

/-- Why the values do not suit the parameters. -/
inductive RequestProblem where
  /-- A name is none of a parameter. -/
  | unexpected (name : String)
  /-- A parameter was given twice. -/
  | repeated (name : String)
  /-- There are more values than places. -/
  | tooMany (least most given : Nat)
  /-- Parameters without a value of their own were not given. -/
  | missing (names : List String)
  /-- There are values, but no parameters at all. -/
  | none
deriving DecidableEq, Repr

namespace RequestProblem

/-- Names between quotes, with "and" before the last one. -/
def listed (names : List String) : String :=
  match names.map fun name => "'" ++ name ++ "'" with
  | [] => ""
  | [a] => a
  | [a, b] => a ++ " and " ++ b
  | many =>
    String.intercalate ", " many.dropLast ++ ", and " ++ many.getLast?.getD ""

/-- The ending of a noun that is counted. -/
def plural (n : Nat) : String := if n = 1 then "" else "s"

/-- The wording of a problem with a request. -/
def message (title : String) (p : RequestProblem) : String :=
  title ++ "() " ++ match p with
    | unexpected name => "got an unexpected keyword argument '" ++ name ++ "'"
    | repeated name => "got multiple values for argument '" ++ name ++ "'"
    | tooMany least most given =>
      let range := if least = most then toString most
        else "from " ++ toString least ++ " to " ++ toString most
      "takes " ++ range ++ " positional argument" ++ (if least = most then plural most else "s")
        ++ " but " ++ toString given ++ (if given = 1 then " was" else " were") ++ " given"
    | missing names =>
      "missing " ++ toString names.length ++ " required positional argument"
        ++ plural names.length ++ ": " ++ listed names
    | none => "takes no arguments"

end RequestProblem

/-- The parameters of a request. -/
structure Signature where
  /-- The request as messages name it. -/
  title : String
  /-- How many values count as given before the first one. -/
  counted : Nat
  /-- The parameters that have to be given. -/
  required : List String
  /-- The other parameters, with the values that they have otherwise. -/
  optional : List (String × Text.Value)

namespace Signature

/-- The names of all parameters, in order. -/
def names (s : Signature) : List String := s.required ++ s.optional.map (·.1)

/-- The name of the value that counts as given before the first one. -/
def ownerName : String := "self"

/-- The names of parameters that have a value already, when some values were
given by their place. -/
def taken (s : Signature) (count : Nat) : List String :=
  (if s.counted = 0 then [] else [ownerName]) ++ s.names.take count

/-- The value of each parameter, in order. -/
def bind (s : Signature) (g : Given) : Except RequestProblem (List Text.Value) :=
  let count := g.placed.length
  let wrong? := g.named.findSome? fun (name, _) =>
    if (s.taken count).contains name then some (RequestProblem.repeated name)
    else if s.names.contains name then none
    else some (.unexpected name)
  let given := (s.names.zip g.placed) ++ g.named
  let absent := s.required.filter fun name => (given.lookup name).isNone
  match wrong? with
  | some problem => .error problem
  | none =>
    if s.names.length < count then
      .error (.tooMany (s.counted + s.required.length) (s.counted + s.names.length)
        (s.counted + count))
    else if absent ≠ [] then .error (.missing absent)
    else .ok (s.names.map fun name => ((given ++ s.optional).lookup name).getD .none)

end Signature

end Chip8
