-- Numbers of two kinds, whole ones and doubles. They are compared by their
-- exact values, and reckoned with as doubles where one of them is a double.
import Chip8.Text.Figure
import Chip8.Text.Problem
namespace Chip8.Text

/-- A number of either kind. -/
inductive Number where
  | whole (n : Int)
  | float (f : Float)
deriving Inhabited

namespace Number

def value : Number → Value
  | whole n => .whole n
  | float f => .float f

/-- The exact value as a fraction, if the number is finite. -/
def fraction? : Number → Option (Int × Nat)
  | whole n => some (n, 1)
  | float f =>
    match Binary64.ofFloat f with
    | .finite negative mantissa exponent =>
      let (num, den) := dyadicFraction mantissa exponent
      some (if negative then -(num : Int) else num, den)
    | _ => none

/-- Whether a number is below another one. -/
def less (a b : Number) : Bool :=
  match a.fraction?, b.fraction?, a, b with
  | some (p, q), some (r, s), _, _ => p * s < r * q
  | _, none, float f, float g => f < g
  | none, _, float f, _ => f < 0
  | _, none, _, float g => 0 < g
  | _, _, _, _ => false

/-- Whether two numbers have one value. -/
def equal (a b : Number) : Bool :=
  match a.fraction?, b.fraction?, a, b with
  | some (p, q), some (r, s), _, _ => p * s == r * q
  | _, _, float f, float g => f == g
  | _, _, _, _ => false

/-- Whether a number is not above another one. -/
def atMost (a b : Number) : Bool := a.less b || a.equal b

/-- The double nearest to a number. -/
def double : Number → Except ValueProblem Float
  | whole n => floatOfWhole n
  | float f => .ok f

/-- An operation on whole numbers and the same one on doubles. -/
def combine (onWholes : Int → Int → Int) (onDoubles : Float → Float → Float) (a b : Number) :
    Except ValueProblem Number :=
  match a, b with
  | whole m, whole n => .ok (.whole (onWholes m n))
  | _, _ => do return .float (onDoubles (← a.double) (← b.double))

/-- The sum of two numbers. -/
def add : Number → Number → Except ValueProblem Number := combine (· + ·) (· + ·)

/-- The difference of two numbers. -/
def subtract : Number → Number → Except ValueProblem Number := combine (· - ·) (· - ·)

/-- The product of two numbers. -/
def multiply : Number → Number → Except ValueProblem Number := combine (· * ·) (· * ·)

/-- A number with commas between groups of three digits before the point. -/
def grouped : Number → String
  | whole n => Text.grouped n
  | float f =>
    let shown := (shortestFloat f).toList
    let (sign, shown) := shown.span (· = '-')
    let (digits, rest) := shown.span Char.isDigit
    String.ofList (sign ++ (groupsOfThree digits.reverse).reverse ++ rest)

end Number

/-- The number of a value. A flag counts as zero or one. -/
def Value.number? : Value → Option Number
  | .float f => some (.float f)
  | v => v.whole?.map .whole

/-- A value that a message writes with commas between groups of digits. -/
def Value.asGrouped (v : Value) : Except ValueProblem String :=
  match v, v.number? with
  | _, some n => .ok n.grouped
  | .text _, Option.none => .error .noGroups
  | v, Option.none => .error (.plainOnly v.kind)

end Chip8.Text
