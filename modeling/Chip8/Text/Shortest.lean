-- The shortest decimal that reads back as a given double, and its spelling.
import Chip8.Text.Binary64
namespace Chip8.Text

/-- A positive decimal `digits * 10 ^ power`. -/
structure Decimal where
  digits : Nat
  power : Int

/-- The whole-number fraction `num / den` on the grid of multiples of
`10 ^ power`, as the quotient and the remainder's fraction. -/
def onGrid (num den : Nat) (power : Int) : Nat × Nat :=
  if 0 ≤ power then (num, den * Nat.pow 10 power.toNat) else (num * Nat.pow 10 (-power).toNat, den)

/-- The reals that round to a double, as fractions over one denominator. The
ends belong to it when the mantissa is even. -/
structure RoundingInterval where
  low : Nat
  value : Nat
  high : Nat
  den : Nat
  closed : Bool

/-- The interval of a positive double `mantissa * 2 ^ exponent`. Below a
power of two the neighbour is only half as far away. -/
def RoundingInterval.ofDyadic (mantissa : Nat) (exponent : Int) : RoundingInterval :=
  let (num, den) := dyadicFraction mantissa exponent
  let (step, stepDen) := dyadicFraction 1 exponent
  -- both fractions share the denominator, so four times it counts quarter steps
  let lowStep := if mantissa = 0x10000000000000 ∧ -1074 < exponent then step else 2 * step
  { low := 4 * num - lowStep
    value := 4 * num
    high := 4 * num + 2 * step
    den := 4 * max den stepDen
    closed := mantissa % 2 = 0 }

/-- Whether `digits * 10 ^ power` rounds to the double. -/
def RoundingInterval.holds (r : RoundingInterval) (d : Decimal) : Bool :=
  -- compare `digits * 10 ^ power` with `low / den` and `high / den`
  let (scaleUp, scaleDown) :=
    if 0 ≤ d.power then (Nat.pow 10 d.power.toNat, 1) else (1, Nat.pow 10 (-d.power).toNat)
  let here := d.digits * scaleUp * r.den
  let low := r.low * scaleDown
  let high := r.high * scaleDown
  if r.closed then low ≤ here && here ≤ high else low < here && here < high

/-- The decimal of the grid of `10 ^ power` that reads back as the double,
if there is one: the nearer neighbour of the value first. -/
def RoundingInterval.pick (r : RoundingInterval) (power : Int) : Option Decimal :=
  let (num, den) := onGrid r.value r.den power
  let near : Decimal := ⟨roundedQuotient num den, power⟩
  let below : Decimal := ⟨num / den, power⟩
  let above : Decimal := ⟨num / den + 1, power⟩
  [near, below, above].find? fun d => d.digits ≠ 0 && r.holds d

/-- The number of digits of a positive whole number. -/
def digitCount (n : Nat) : Nat := (Nat.toDigits 10 n).length

/-- Tries grids from the coarse to the fine. Seventeen digits always do. -/
def RoundingInterval.search (r : RoundingInterval) (power : Int) : Nat → Decimal
  | 0 => ⟨r.value / r.den, 0⟩
  | tries + 1 => (r.pick power).getD (r.search (power - 1) tries)

/-- The shortest decimal that reads back as a positive double. -/
def shortestDecimal (mantissa : Nat) (exponent : Int) : Decimal :=
  let r := RoundingInterval.ofDyadic mantissa exponent
  let size : Int := (digitCount r.value : Int) - digitCount r.den
  r.search (size + 1) 20

/-- Zeros at the end of the digits move into the power. -/
def Decimal.trimmed (d : Decimal) : Nat → Decimal
  | 0 => d
  | fuel + 1 =>
    if d.digits % 10 = 0 ∧ d.digits ≠ 0 then Decimal.trimmed ⟨d.digits / 10, d.power + 1⟩ fuel
    else d

/-- A decimal spelled with a point when its first digit stands between the
fourth place after the point and the sixteenth before it, and with an
exponent of at least two digits otherwise. -/
def Decimal.spelled (d : Decimal) : String :=
  let d := d.trimmed 400
  let digits := toString d.digits
  let point : Int := digits.length + d.power
  if -4 < point ∧ point ≤ 16 then
    if point ≤ 0 then "0." ++ String.ofList (List.replicate (-point).toNat '0') ++ digits
    else if digits.length ≤ point.toNat then
      digits ++ String.ofList (List.replicate (point.toNat - digits.length) '0') ++ ".0"
    else
      String.ofList (digits.toList.take point.toNat) ++ "."
        ++ String.ofList (digits.toList.drop point.toNat)
  else
    let shown := (point - 1).natAbs
    let sign := if point - 1 < 0 then "-" else "+"
    let exponent := if shown < 10 then "0" ++ toString shown else toString shown
    let rest := digits.toList.drop 1
    let mantissa := String.ofList (digits.toList.take 1)
      ++ (if rest.isEmpty then "" else "." ++ String.ofList rest)
    mantissa ++ "e" ++ sign ++ exponent

/-- A double in the fewest digits that read back as the same double. -/
def shortestFloat (f : Float) : String :=
  match Binary64.ofFloat f with
  | .nan => "nan"
  | .infinite negative => if negative then "-inf" else "inf"
  | .finite negative mantissa exponent =>
    let digits := if mantissa = 0 then "0.0" else (shortestDecimal mantissa exponent).spelled
    if negative then "-" ++ digits else digits

end Chip8.Text
