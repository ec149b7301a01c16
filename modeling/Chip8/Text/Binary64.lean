-- A finite double as an exact number `mantissa * 2 ^ exponent`, and
-- rounding of a quotient of whole numbers.
namespace Chip8.Text

/-- A double taken apart. -/
inductive Binary64 where
  | nan
  | infinite (negative : Bool)
  | finite (negative : Bool) (mantissa : Nat) (exponent : Int)

/-- The exact value of a double, from its bits. -/
def Binary64.ofFloat (f : Float) : Binary64 :=
  let bits := f.toBits.toNat
  let negative := bits >>> 63 == 1
  let field := (bits >>> 52) % 2048
  let fraction := bits % 0x10000000000000
  if field = 2047 then
    if fraction = 0 then .infinite negative else .nan
  else if field = 0 then .finite negative fraction (-1074)
  else .finite negative (0x10000000000000 + fraction) (field - 1075)

/-- The quotient of two whole numbers, rounded to the nearest; a half goes
to the even neighbour. -/
def roundedQuotient (num den : Nat) : Nat :=
  let low := num / den
  let rest := num % den
  if 2 * rest < den then low
  else if den < 2 * rest then low + 1
  else if low % 2 = 0 then low else low + 1

/-- A dyadic number as a fraction of two whole numbers. -/
def dyadicFraction (mantissa : Nat) (exponent : Int) : Nat × Nat :=
  if 0 ≤ exponent then (mantissa * Nat.pow 2 exponent.toNat, 1)
  else (mantissa, Nat.pow 2 (-exponent).toNat)

/-- The largest whole number that is not above a double. What is not finite
has none, and zero stands for it. -/
def floorOf (f : Float) : Int :=
  match Binary64.ofFloat f with
  | .finite negative mantissa exponent =>
    let (num, den) := dyadicFraction mantissa exponent
    (if negative then -(num : Int) else num) / den
  | _ => 0

end Chip8.Text
