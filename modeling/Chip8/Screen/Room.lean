-- Room for pixels. A table of cells needs a byte for each cell; there is no
-- table whose cells cannot be counted in a word, or that the platform has no
-- room for.
import Chip8.Refusal
namespace Chip8

/-- What the machine below the screens allows. -/
structure Platform where
  /-- Whether there is room for a table of so many bytes. -/
  holds : Nat → Bool
  /-- The longest side of a window. -/
  longestSide : Nat
  /-- The height and the width of the whole desktop. -/
  desktop : Nat × Nat
  /-- Where there is room for a table, there is room for a smaller one. -/
  holds_of_le {fewer bytes : Nat} : fewer ≤ bytes → holds bytes = true → holds fewer = true
  /-- The sides of windows are counted in half a word. -/
  longestSide_lt : longestSide < 0x80000000

namespace Room

/-- The number of cells of a table with these sides, times a number. A side
of zero is left out, so that the others are counted too. -/
def cells (n : Int) : List Int → Except Refusal Int
  | [] => .ok n
  | side :: rest =>
    if side < 0 then .error .negativeSize
    else if side = 0 then cells n rest
    else if Text.fitsWord (n * side) then cells (n * side) rest
    else .error .tooManyPixels

/-- Whether there is room for a table with these sides; `cell` tells what its
cells hold. A table without cells needs none. -/
def check (p : Platform) (sides : List Int) (cell : String) : Except Refusal Unit :=
  match cells 1 sides with
  | .error r => .error r
  | .ok n => if 0 ∈ sides ∨ p.holds n.toNat then .ok () else .error (.noRoom sides n.toNat cell)

/-- A side in a scale. One that does not fit a word has lost its upper bits
when it is looked at: what is left is refused if it is negative, and otherwise
it is not the side of any table. -/
def stretched (side : Nat) (scale : Int) : Except Refusal Int :=
  let length := side * scale
  if Text.fitsWord length then .ok length
  else if length.bmod 0x10000000000000000 < 0 then .error .negativeSize
  else .error .tooManyPixels

/-- Whether there is room for a picture that shows each pixel as a square. It
is laid out with single pixels, then with long columns, then with squares. -/
def checkScaled (p : Platform) (height width components : Nat) (scale : Int) :
    Except Refusal Unit := do
  check p [height, width, components] "uint8"
  if scale ≤ 1 then return
  else if !Text.fitsWord scale then .error .tooLargeForWord
  else
    let rows ← stretched height scale
    check p [rows, width, components] "uint8"
    let columns ← stretched width scale
    check p [rows, columns, components] "uint8"

end Room

end Chip8
