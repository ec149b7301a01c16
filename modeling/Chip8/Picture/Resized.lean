-- Images in another size. Each new pixel is a weighted mean of the pixels
-- around its place, first along the rows and then along the columns. Files of
-- icons hold an image in several sizes, of which the largest one is shown.
import Chip8.Picture.Image
namespace Chip8

/-- How much a pixel weighs by its distance from a place. -/
structure Weighing where
  weight : Float → Float
  /-- The distance from which on pixels weigh nothing. -/
  reach : Float

namespace Weighing

/-- Half the way round the unit circle. -/
def pi : Float := 3.141592653589793

/-- The weight of a pure wave. -/
def sinc (x : Float) : Float :=
  if x == 0 then 1
  else
    let angle := x * pi
    angle.sin / angle

/-- A wave that fades out within a wider one. -/
def fadingWave : Weighing :=
  { weight := fun x => if -3 ≤ x && x < 3 then sinc x * sinc (x / 3) else 0
    reach := 3 }

/-- Pieces of cubic curves. -/
def cubic : Weighing :=
  { weight := fun x =>
      let x := x.abs
      let a : Float := -0.5
      if x < 1 then ((a + 2) * x - (a + 3)) * x * x + 1
      else if x < 2 then (((x - 5) * x + 8) * x - 4) * a
      else 0
    reach := 2 }

end Weighing

/-! ## Shares -/

/-- What a new pixel takes of a line of pixels: the first one that it takes
something of, and the shares of that one and the next. -/
structure Share where
  first : Nat
  parts : List Int

namespace Share

/-- The number of binary places of a share. -/
def places : Nat := 22

/-- A share of one, with its binary places before the point. -/
def whole : Float := Float.ofNat (Nat.pow 2 places)

/-- The nearest whole number; a half goes away from zero. -/
def nearest (f : Float) : Int :=
  if f < 0 then -Text.floorOf (-f + 0.5) else Text.floorOf (f + 0.5)

/-- The share of a new pixel whose middle lies at a place of a line. Where
pixels are fewer than before, each takes in more of them. -/
def ofPlace (w : Weighing) (length : Nat) (stretch center : Float) : Share :=
  let reach := w.reach * stretch
  let first := (Text.floorOf (center - reach + 0.5)).toNat
  let behind := min (Text.floorOf (center + reach + 0.5)).toNat length
  let weights := (List.range (behind - first)).map fun k =>
    w.weight ((Float.ofNat (k + first) - center + 0.5) * (1 / stretch))
  let sum := weights.foldl (· + ·) 0
  ⟨first, weights.map fun weight => nearest ((if sum == 0 then weight else weight / sum) * whole)⟩

/-- The shares of the new pixels of a line that gets another length. -/
def ofLength (w : Weighing) (length newLength : Nat) : List Share :=
  let step := Float.ofNat length / Float.ofNat newLength
  let stretch := if step < 1 then 1 else step
  (List.range newLength).map fun k => ofPlace w length stretch ((Float.ofNat k + 0.5) * step)

/-- A sum of shares of bytes as a byte. -/
def byteOf (sum : Int) : Nat :=
  min ((sum + Nat.pow 2 (places - 1)) / Nat.pow 2 places).toNat 0xFF

/-- What a share takes of a line of pixels. -/
def pixel (s : Share) (components : Nat) (line : List (List Nat)) : List Nat :=
  let taken := s.parts.zip (line.drop s.first)
  (List.range components).map fun c =>
    byteOf (taken.foldl (fun sum (part, color) => sum + part * color.getD c 0) 0)

end Share

/-! ## Sizes -/

namespace Image

def columns {α : Type} (width : Nat) (rows : List (List α)) : List (List α) :=
  rows.foldr (List.zipWith List.cons) (List.replicate width [])

/-- The image with rows of another width. -/
def widened (w : Weighing) (width : Nat) (image : Image) : Image :=
  let shares := Share.ofLength w image.width width
  { image with
    width
    rows := image.rows.map fun row => shares.map fun s => s.pixel image.components row }

/-- The image with its columns for rows. -/
def turned (image : Image) : Image :=
  { image with
    height := image.width
    width := image.height
    rows := columns image.width image.rows }

/-- The image in another size. A side that stays is left as it is. -/
def resized (w : Weighing) (height width : Nat) (image : Image) : Image :=
  let image := if width = image.width then image else image.widened w width
  if height = image.height then image else (image.turned.widened w height).turned

/-- Of the whole numbers next to a number, the one that is less far off, and
one at least. -/
def closest (number : Float) (offset : Nat → Float) : Nat :=
  let low := number.floor.toUInt64.toNat
  let high := number.ceil.toUInt64.toNat
  max (if offset high < offset low then high else low) 1

/-- The largest height and width of the shape of an image inside a square. -/
def fitting (side : Nat) (image : Image) : Nat × Nat :=
  let square := Float.ofNat side
  let shape := Float.ofNat image.width / Float.ofNat image.height
  if image.width ≤ side ∧ image.height ≤ side then (image.height, image.width)
  else if shape ≤ 1 then
    (side, closest (square * shape) fun n => (shape - Float.ofNat n / square).abs)
  else
    (closest (square / shape) fun n => if n = 0 then 0 else (shape - square / Float.ofNat n).abs,
      side)

end Image

/-! ## Icons -/

namespace Icon

/-- The sides of the squares that small icons fit. -/
def sides : List Nat := [16, 24, 32, 48, 64, 128, 256]

/-- The icon that is shown for an image. An image that is smaller than every
icon is stored as it is. -/
def shown (image : Image) : Image :=
  match (sides.filter (· ≤ min image.height image.width)).getLast? with
  | none => image
  | some side =>
    let (height, width) := image.fitting side
    image.resized .fadingWave height width

/-- The side of the largest of the icons that are all squares. -/
def largestSquare : Nat := 1024

def squareShown (image : Image) : Image :=
  image.resized .cubic largestSquare largestSquare

end Icon

end Chip8
