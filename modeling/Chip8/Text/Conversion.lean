-- What requests make of values: whole numbers, counts, elements and pairs.
import Chip8.Text.Number
import Chip8.Text.Numeral
namespace Chip8.Text

/-- A finite double without its fraction. -/
def truncated (negative : Bool) (mantissa : Nat) (exponent : Int) : Int :=
  let (num, den) := dyadicFraction mantissa exponent
  if negative then -((num / den : Nat) : Int) else (num / den : Nat)

/-- The whole number that a text spells. -/
def wholeOfText (s : String) : Except ValueProblem Int :=
  match whole? s with
  | some n => .ok n
  | none =>
    match digits? (unsigned (trimmed s)).2 with
    | some digits => .error (.tooManyDigits digits.length)
    | none => .error (.noNumeral 10 (String.ofList ((quoted s).toList.take 200)))

namespace Value

/-- The whole number that a value is turned into: doubles lose their fraction,
and texts are read. -/
def toWhole : Value → Except ValueProblem Int
  | .whole n => .ok n
  | .flag b => .ok (if b then 1 else 0)
  | .float f =>
    match Binary64.ofFloat f with
    | .nan => .error .wholeOfNone
    | .infinite _ => .error .wholeOfInfinity
    | .finite negative mantissa exponent => .ok (truncated negative mantissa exponent)
  | .text s => wholeOfText s
  | v => .error (.noWhole v.kind)

/-- The whole number of a value that counts something. -/
def toCount (v : Value) : Except ValueProblem Int :=
  match v.whole? with
  | some n => .ok n
  | Option.none => .error (.noCount v.kind)

/-- The elements of a value: those of a list, the characters of a text and the
names of a record. -/
def parts? : Value → Option (List Value)
  | .list vs => some vs
  | .text s => some (s.toList.map fun c => .text c.toString)
  | .record fields => some (fields.map fun (name, _) => .text name)
  | _ => Option.none

/-- The elements of a value that is gone through. -/
def toElements (v : Value) : Except ValueProblem (List Value) :=
  match v.parts? with
  | some vs => .ok vs
  | Option.none => .error (.noElements v.kind)

/-- The two elements of a value that is a pair. -/
def toPair (v : Value) : Except ValueProblem (Value × Value) :=
  match v.parts? with
  | some [a, b] => .ok (a, b)
  | some [] => .error (.tooFew 2 0)
  | some [_] => .error (.tooFew 2 1)
  | some _ => .error (.tooMany 2)
  | Option.none => .error (.noParts v.kind)

/-- A value that can be a key of a table. -/
def asKey (v : Value) : Except ValueProblem Value :=
  match v with
  | .list _ | .record _ | .table _ => .error (.noKey v.kind)
  | v => .ok v

/-! ## Comparing -/

mutual
/-- Whether two values are equal. Numbers of all kinds, flags among them, are
compared by their value. -/
def same : Value → Value → Bool
  | .none, .none => true
  | .text s, .text t => s == t
  | .list vs, .list ws => sameList vs ws
  | .record fields, .record others => fields.length == others.length && sameFields fields others
  | v, w =>
    match v.number?, w.number? with
    | some a, some b => a.equal b
    | _, _ => false

/-- Whether two lists of values are equal. -/
def sameList : List Value → List Value → Bool
  | [], [] => true
  | v :: vs, w :: ws => same v w && sameList vs ws
  | _, _ => false

/-- Whether each named value has an equal one of that name among others. -/
def sameFields : List (String × Value) → List (String × Value) → Bool
  | [], _ => true
  | (name, v) :: rest, others =>
    (match others.lookup name with
      | some w => same v w
      | Option.none => false) && sameFields rest others
end

/-- Whether a value holds another one: a list one of its elements, a record one
of its names, and a text a part of itself. -/
def holds (v w : Value) : Except ValueProblem Bool :=
  match v, w with
  | .list vs, w => .ok (vs.any fun v => v.same w)
  | .text s, .text part => .ok ((s.splitOn part).length != 1 || part == "")
  | .text _, w => .error (.noPart w.kind)
  | .record _, .list _ | .record _, .record _ => .error (.noKey w.kind)
  | .record fields, w => .ok (fields.any fun (name, _) => (Value.text name).same w)
  | v, _ => .error (.noMembers v.kind)

/-- Two values that are compared, as numbers. -/
def compared (sign : String) (v w : Value) : Except ValueProblem (Number × Number) :=
  match v.number?, w.number? with
  | some a, some b => .ok (a, b)
  | _, _ => .error (.noOrder sign v.kind w.kind)

/-- Whether a value is below another one. -/
def isBelow (v w : Value) : Except ValueProblem Bool :=
  (compared "<" v w).map fun (a, b) => a.less b

/-- Whether a value is above another one. -/
def isAbove (v w : Value) : Except ValueProblem Bool :=
  (compared ">" v w).map fun (a, b) => b.less a

/-- Whether a value is not above another one. -/
def isAtMost (v w : Value) : Except ValueProblem Bool :=
  (compared "<=" v w).map fun (a, b) => a.atMost b

/-- Whether a value is not below another one. -/
def isAtLeast (v w : Value) : Except ValueProblem Bool :=
  (compared ">=" v w).map fun (a, b) => b.atMost a

/-! ## Reckoning -/

/-- An operation on two values that are numbers. -/
def reckon (sign : String) (act : Number → Number → Except ValueProblem Number) (v w : Value) :
    Except ValueProblem Value :=
  match v.number?, w.number? with
  | some a, some b => (act a b).map (·.value)
  | _, _ => .error (.noOperation sign v.kind w.kind)

/-- The sum of two values. Texts and lists are joined. -/
def plus (v w : Value) : Except ValueProblem Value :=
  match v, w with
  | .text s, .text t => .ok (.text (s ++ t))
  | .list vs, .list ws => .ok (.list (vs ++ ws))
  | .text _, w => .error (.noJoin "str" w.kind)
  | .list _, w => .error (.noJoin "list" w.kind)
  | v, w => reckon "+" Number.add v w

/-- The difference of two values. -/
def minus : Value → Value → Except ValueProblem Value := reckon "-" Number.subtract

/-- A value a number of times: a product, or the text or the list over and
over. -/
def times (v : Value) (n : Nat) : Except ValueProblem Value :=
  match v with
  | .text s => .ok (.text (String.join (List.replicate n s)))
  | .list vs => .ok (.list (List.replicate n vs).flatten)
  | v => reckon "*" Number.multiply v (.whole n)

/-- An operation on the bits of two whole numbers. -/
def bitwise (sign : String) (act : Int → Int → Int) (v w : Value) : Except ValueProblem Value :=
  match v, w, v.whole?, w.whole? with
  | .flag _, .flag _, some a, some b => .ok (.flag (act a b != 0))
  | _, _, some a, some b => .ok (.whole (act a b))
  | _, _, _, _ => .error (.noOperation sign v.kind w.kind)

end Value

end Chip8.Text
