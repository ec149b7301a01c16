-- Bytes as texts of two small hexadecimal digits for each.
import Chip8.Text.Problem
namespace Chip8.Text

def hexBytes (bytes : List UInt8) : String :=
  String.join (bytes.map fun b => smallHex 2 b.toNat)

/-- The value of a hexadecimal digit. -/
def hexDigit? (c : Char) : Option Nat :=
  if '0' ≤ c ∧ c ≤ '9' then some (c.toNat - '0'.toNat)
  else if 'a' ≤ c ∧ c ≤ 'f' then some (c.toNat - 'a'.toNat + 10)
  else if 'A' ≤ c ∧ c ≤ 'F' then some (c.toNat - 'A'.toNat + 10)
  else none

/-- The number that hexadecimal digits spell, of which there is at least one. -/
def hexNumber? (s : String) : Option Nat :=
  if s.isEmpty then none
  else (s.toList.mapM hexDigit?).map fun digits => digits.foldl (fun n d => 16 * n + d) 0

/-- Whether a character may stand between the digits of two bytes. -/
def isGap (c : Char) : Bool := c = ' ' || '\t' ≤ c && c ≤ '\r'

/-- The bytes of pairs of digits from a place of a text on. A character that
is no digit where one is needed is told by its place. -/
def pairedBytes (place : Nat) : List Char → Except ValueProblem (List UInt8)
  | [] => .ok []
  | [a] =>
    if isGap a then .ok []
    else .error (.noHex (if (hexDigit? a).isSome then place + 1 else place))
  | a :: b :: rest =>
    if isGap a then pairedBytes (place + 1) (b :: rest)
    else
      match hexDigit? a, hexDigit? b with
      | none, _ => .error (.noHex place)
      | _, none => .error (.noHex (place + 1))
      | some high, some low =>
        (pairedBytes (place + 2) rest).map ((16 * high + low).toUInt8 :: ·)
termination_by cs => cs.length

/-- The bytes of a text. Blanks between them do not count. -/
def bytesOfHex (s : String) : Except ValueProblem (List UInt8) :=
  match s.toList.findIdx? fun c => 0x80 ≤ c.toNat with
  | some place => .error (.noHex place)
  | none => pairedBytes 0 s.toList

end Chip8.Text
