-- Images of a grid: one square of equal colour for each pixel, and a text
-- with one symbol for each pixel.
import Chip8.Screen.Grid
namespace Chip8

/-! ## Colours -/

/-- The components of a colour. -/
abbrev Color := List Int

/-- A colour for lit pixels and one for the others. -/
structure Scheme where
  lit : Color
  unlit : Color
deriving DecidableEq, Repr

namespace Scheme

/-- The scheme that is used unless another one is named. -/
def classic : Scheme := ⟨[0, 255, 0], [0, 0, 0]⟩

def ofName (name : String) : Except Refusal Scheme :=
  match name with
  | "classic" => .ok classic
  | "amber" => .ok ⟨[255, 176, 0], [0, 0, 0]⟩
  | "white" => .ok ⟨[255, 255, 255], [0, 0, 0]⟩
  | "blue" => .ok ⟨[0, 255, 255], [0, 0, 64]⟩
  | "retro" => .ok ⟨[255, 255, 0], [64, 0, 64]⟩
  | _ => .error (.unknownScheme name)

end Scheme

/-! ## Images -/

/-- An image by its rows, from the top. All its colours have the same
number of components. -/
structure Image where
  height : Nat
  width : Nat
  components : Nat
  rows : List (List (List Nat))
deriving DecidableEq, Repr

namespace Image

/-- The first component that is not a byte. -/
def badComponent? (c : Color) : Option Int := c.find? fun v => v < 0 ∨ 0xFF < v

/-- The components that two colours have in common: a colour of one
component stands for any number of equal ones. -/
def commonSize? (lit unlit : Nat) : Option Nat :=
  if lit = unlit then some lit
  else if lit = 1 then some unlit
  else if unlit = 1 then some lit
  else none

/-- A colour with as many components as asked for. -/
def spread (size : Nat) : Color → List Nat
  | [v] => List.replicate size v.toNat
  | c => c.map Int.toNat

/-- The side of the square of a pixel. -/
def side (scale : Int) : Nat := (max scale 1).toNat

/-- Every element of a list `n` times over. -/
def stretch {α : Type} (n : Nat) (l : List α) : List α := l.flatMap (List.replicate n)

/-- Two colours with equally many components. -/
structure Shades where
  components : Nat
  lit : List Nat
  unlit : List Nat

/-- The shades of a scheme, if its components are bytes and can be matched. -/
def shades (g : Grid) (scheme : Scheme) : Except Refusal Shades :=
  match badComponent? scheme.lit, badComponent? scheme.unlit with
  | some v, _ => .error (.componentNotByte v)
  | none, some v => .error (.componentNotByte v)
  | none, none =>
    match commonSize? scheme.lit.length scheme.unlit.length with
    | none =>
      .error (.componentsDiffer g.height g.width scheme.lit.length scheme.unlit.length)
    | some size => .ok ⟨size, spread size scheme.lit, spread size scheme.unlit⟩

/-- A grid in two shades with a square for each pixel. -/
def drawn (g : Grid) (scale : Int) (s : Shades) : Image :=
  let n := side scale
  { height := g.height * n
    width := g.width * n
    components := s.components
    rows := stretch n (g.rows.map fun row =>
      stretch n (row.map fun pixel => if pixel then s.lit else s.unlit)) }

/-- The shades of a scheme, if the platform has room for the image of a grid. -/
def shadesInRoom (p : Platform) (g : Grid) (scale : Int) (scheme : Scheme) :
    Except Refusal Shades := do
  let s ← shades g scheme
  Room.checkScaled p g.height g.width s.components scale
  return s

/-- The image of a grid, if the platform has room for it. -/
def inRoom (p : Platform) (g : Grid) (scale : Int) (scheme : Scheme) : Except Refusal Image :=
  (shadesInRoom p g scale scheme).map (drawn g scale)

/-- Whether there is room depends on the size of the grid alone. -/
theorem shadesInRoom_of_sameSize {p : Platform} {g g' : Grid} {scale : Int} {scheme : Scheme}
    (h : g'.SameSize g) : shadesInRoom p g' scale scheme = shadesInRoom p g scale scheme := by
  unfold shadesInRoom shades
  rw [h.1, h.2]

/-- A dark image of a size in red, green and blue. -/
def dark (height width : Nat) : Image :=
  { height
    width
    components := 3
    rows := List.replicate height (List.replicate width [0, 0, 0]) }

/-- An image laid on the upper left corner of another one. What sticks out of
the lower one is cut off. -/
def laidOn (image below : Image) : Image :=
  let laid (upper lower : List (List Nat)) := (upper ++ lower.drop upper.length).take lower.length
  { below with
    rows := List.zipWith laid image.rows below.rows ++ below.rows.drop image.rows.length }

/-- The colour at a row and a column. -/
def pixel? (image : Image) (row column : Nat) : Option (List Nat) :=
  image.rows[row]?.bind (·[column]?)

end Image

/-- The grid as lines of text, with a symbol for each pixel. -/
def Grid.text (g : Grid) (lit unlit : String) : String :=
  String.intercalate "\n" (g.rows.map fun row =>
    String.join (row.map fun pixel => if pixel then lit else unlit))

end Chip8
