-- How numbers are written in figures: in base sixteen, in groups of digits, with
-- a fixed number of places, and as amounts of bytes.
import Chip8.Text.Binary64
namespace Chip8.Text

/-! ## Base sixteen -/

/-- The numeral of a number in base sixteen, with capital digits. -/
def hexDigits (n : Nat) : String :=
  String.ofList ((Nat.toDigits 16 n).map Char.toUpper)

/-- The sign of a number, as a numeral carries it. -/
def minus (v : Int) : String := if v < 0 then "-" else ""

/-- A numeral in base sixteen that fills `width` places. The sign counts as
a place and stands before the zeros; a longer number is not cut. -/
def hex (width : Nat) (v : Int) : String :=
  let digits := hexDigits v.natAbs
  let zeros := width - (minus v).length - digits.length
  minus v ++ String.ofList (List.replicate zeros '0') ++ digits

/-! ## Fields and groups -/

/-- Blanks in front of a text, up to `width` characters in all. -/
def rightJustified (width : Nat) (s : String) : String :=
  String.ofList (List.replicate (width - s.length) ' ') ++ s

/-- Commas between groups of three, read from the last digit. -/
def groupsOfThree : List Char → List Char
  | a :: b :: c :: d :: rest => a :: b :: c :: ',' :: groupsOfThree (d :: rest)
  | short => short

/-- A whole number with a comma before each group of three digits. -/
def grouped (v : Int) : String :=
  let digits := String.ofList (groupsOfThree (toString v.natAbs).toList.reverse).reverse
  if v < 0 then "-" ++ digits else digits

/-! ## Places behind the point -/

/-- The digits of `n` with a point before the last `places` of them. -/
def withPoint (places n : Nat) : String :=
  if places = 0 then toString n
  else
    let fraction := toString (n % Nat.pow 10 places)
    let zeros := String.ofList (List.replicate (places - fraction.length) '0')
    toString (n / Nat.pow 10 places) ++ "." ++ zeros ++ fraction

/-- A double with `places` digits after the point, rounded from its exact
value; a half goes to the even neighbour. -/
def fixedPlaces (places : Nat) (f : Float) : String :=
  match Binary64.ofFloat f with
  | .nan => "nan"
  | .infinite negative => if negative then "-inf" else "inf"
  | .finite negative mantissa exponent =>
    let (num, den) := dyadicFraction mantissa exponent
    let digits := withPoint places (roundedQuotient (num * Nat.pow 10 places) den)
    if negative then "-" ++ digits else digits

/-! ## Amounts of bytes -/

/-- The units of amounts from the smallest; each is 1024 of the one before. -/
def byteUnits : List String := ["bytes", "KiB", "MiB", "GiB", "TiB", "PiB", "EiB"]

/-- A quotient with three digits, or with all those before the point if they
are more. -/
def threeDigits (num den : Nat) : String :=
  let rounded (places : Nat) := roundedQuotient (num * Nat.pow 10 places) den
  if rounded 2 < 1000 then withPoint 2 (rounded 2)
  else if rounded 1 < 1000 then withPoint 1 (rounded 1)
  else toString (rounded 0) ++ "."

/-- The place of the unit of an amount. An amount that would be rounded to
1024 of a unit is one of the next. -/
def unitPlace (bytes : Nat) : Nat :=
  let place := bytes.log2 / 10
  if roundedQuotient bytes (Nat.pow 1024 place) = 1024 then place + 1 else place

/-- An amount of bytes with its unit. -/
def amount (bytes : Nat) : String :=
  let place := unitPlace bytes
  let number := if place = 0 then toString bytes else threeDigits bytes (Nat.pow 1024 place)
  number ++ " " ++ (byteUnits[place]?).getD ""

end Chip8.Text
