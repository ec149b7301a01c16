-- Reading numerals: whole numbers and decimals, in decimal digits of any
-- script. A single underscore may stand between two digits, a sign in front,
-- and blanks around the whole.
namespace Chip8.Text

/-! ## Digits -/

/-- The zero of each set of ten decimal digits, after Unicode 14. Each script has
its ten digits side by side, zero first. -/
def digitZeros : List Nat := [
  0x30, 0x660, 0x6F0, 0x7C0, 0x966, 0x9E6, 0xA66, 0xAE6, 0xB66, 0xBE6, 0xC66, 0xCE6, 0xD66, 0xDE6,
  0xE50, 0xED0, 0xF20, 0x1040, 0x1090, 0x17E0, 0x1810, 0x1946, 0x19D0, 0x1A80, 0x1A90, 0x1B50,
  0x1BB0, 0x1C40, 0x1C50, 0xA620, 0xA8D0, 0xA900, 0xA9D0, 0xA9F0, 0xAA50, 0xABF0, 0xFF10, 0x104A0,
  0x10D30, 0x11066, 0x110F0, 0x11136, 0x111D0, 0x112F0, 0x11450, 0x114D0, 0x11650, 0x116C0,
  0x11730, 0x118E0, 0x11950, 0x11C50, 0x11D50, 0x11DA0, 0x16A60, 0x16AC0, 0x16B50, 0x1D7CE,
  0x1D7D8, 0x1D7E2, 0x1D7EC, 0x1D7F6, 0x1E140, 0x1E2F0, 0x1E950, 0x1FBF0]

/-- The value of a decimal digit of any script. -/
def decimalDigit? (c : Char) : Option Nat :=
  (digitZeros.find? fun first => first ≤ c.toNat ∧ c.toNat < first + 10).map (c.toNat - ·)

/-! ## Numerals -/

/-- The characters that may stand around a numeral. -/
def isBlank (c : Char) : Bool :=
  let n := c.toNat
  0x09 ≤ n && n ≤ 0x0D || 0x2000 ≤ n && n ≤ 0x200A
    || [0x20, 0x85, 0xA0, 0x1680, 0x2028, 0x2029, 0x202F, 0x205F, 0x3000].contains n

/-- The characters of a text without the blanks around it. -/
def trimmed (s : String) : List Char :=
  ((s.toList.dropWhile isBlank).reverse.dropWhile isBlank).reverse

/-- The digits of a numeral, of which there is at least one. -/
def digits? : List Char → Option (List Nat)
  | [] => none
  | [c] => (decimalDigit? c).map ([·])
  | c :: '_' :: rest => do return (← decimalDigit? c) :: (← digits? rest)
  | c :: rest => do return (← decimalDigit? c) :: (← digits? rest)

/-- The number of some digits, the first one in front. -/
def ofDigits (digits : List Nat) : Nat := digits.foldl (fun n d => 10 * n + d) 0

/-- Whether a numeral is negative, and the numeral without its sign. -/
def unsigned : List Char → Bool × List Char
  | '-' :: rest => (true, rest)
  | '+' :: rest => (false, rest)
  | cs => (false, cs)

/-- The most digits that a whole number may have. -/
def wholeDigitLimit : Nat := 4300

/-- The whole number that characters spell. -/
def wholeOf? (cs : List Char) : Option Int :=
  let (negative, cs) := unsigned cs
  (digits? cs).bind fun digits =>
    if wholeDigitLimit < digits.length then none
    else some (if negative then -(ofDigits digits : Int) else ofDigits digits)

/-- The whole number that a text spells. -/
def whole? (s : String) : Option Int := wholeOf? (trimmed s)

/-- The double nearest to `n * 10 ^ power`. Numbers far outside the range of
doubles are infinite or zero. -/
def nearestFloat (n : Nat) (power : Int) : Float :=
  let size : Int := (Nat.toDigits 10 n).length + power
  if n = 0 ∨ size < -400 then 0
  else if 400 < size then 1 / 0
  else if power < 0 then .ofScientific n true (-power).toNat
  else .ofScientific (n * Nat.pow 10 power.toNat) false 0

/-- The digits of a numeral that may have none. -/
def someDigits? (cs : List Char) : Option (List Nat) := if cs.isEmpty then some [] else digits? cs

/-- The number that characters without a sign spell: digits with a point and
an exponent, either of which may be left out. -/
def pointed? (cs : List Char) : Option Float := do
  let (mantissa, tail) := cs.span fun c => c ≠ 'e' ∧ c ≠ 'E'
  let (whole, fraction) := mantissa.span (· ≠ '.')
  let whole ← someDigits? whole
  let fraction ← someDigits? (fraction.drop 1)
  if whole.isEmpty && fraction.isEmpty then none
  let exponent : Int ← match tail with
    | [] => some 0
    | _ :: exponent => wholeOf? exponent
  return nearestFloat (ofDigits (whole ++ fraction)) (exponent - fraction.length)

/-- The double that a text spells, infinities and the number that is none
among them. -/
def decimal? (s : String) : Option Float :=
  let (negative, cs) := unsigned (trimmed s)
  let size? := match String.ofList (cs.map Char.toLower) with
    | "inf" | "infinity" => some (1 / 0)
    | "nan" => some (0 / 0)
    | _ => pointed? cs
  size?.map fun size => if negative then -size else size

end Chip8.Text
