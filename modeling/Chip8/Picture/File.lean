-- Pictures in files: the ending of the file's name chooses the format, the
-- file is opened, and the format takes the picture or refuses it. The bytes of
-- a bitmap are written here, too.
import Chip8.File.Path
import Chip8.Picture.Format
import Chip8.Picture.Image
import Chip8.Text.Small
namespace Chip8.Picture

/-- The format that the name of a file asks for, if it can be written. -/
def formatOf (path : String) : Except PictureProblem Format := do
  let format ← Format.ofEnding (Text.small (Path.ending path))
  match format.closed with
  | some problem => .error problem
  | none => .ok format

/-- Why a format refuses an image. -/
def Format.problem? (f : Format) (image : Image) : Option PictureProblem :=
  match f.refusal with
  | some problem => some problem
  | none => if image.height = 0 ∨ image.width = 0 then f.whenEmpty else none

/-- Why an image that a format took cannot be read back from a file. -/
def Format.unreadProblem? (f : Format) (image : Image) (path : String) : Option PictureProblem :=
  if f.whenEmpty.isNone ∧ min image.height image.width = 0 then some (.unreadable path)
  else f.unread path

def refuse : Option PictureProblem → Except Refusal Unit
  | some problem => .error (.picture problem)
  | none => .ok ()

/-- Saves an image: the format is looked up first, then the file is opened,
and the format has the last word. `opened` tells where the file can be
written. -/
def save {α : Type} (image : Image) (path : String) (opened : Except Refusal α) :
    Except Refusal Format := do
  let format ← (formatOf path).mapError .picture
  let _ ← opened
  refuse (format.problem? image)
  return format

/-- Saves an image. The answer is what is read back. -/
def saveAndRead {α : Type} (image : Image) (path : String) (opened : Except Refusal α) :
    Except Refusal Image := do
  let format ← save image path opened
  refuse (format.unreadProblem? image path)
  return format.stored image

/-! ## Bitmaps -/

/-- A number in `count` bytes, the lowest first. -/
def littleEndian : (count : Nat) → Nat → List UInt8
  | 0, _ => []
  | count + 1, v => (v % 256).toUInt8 :: littleEndian count (v / 256)

/-- The bytes that fill a row up to a multiple of four. -/
def padding (width : Nat) : List UInt8 := List.replicate (width % 4) 0

/-- The bytes of a row of colours. -/
def rowBytes (row : List (List Nat)) : List UInt8 :=
  row.flatMap (fun color => color.reverse.map Nat.toUInt8) ++ padding row.length

/-- The bytes of an image whose colours are red, green and blue: a header of 54
bytes, then the rows from the bottom up, three bytes a pixel, blue first. -/
def bitmap (image : Image) : List UInt8 :=
  let body := image.rows.reverse.flatMap rowBytes
  let header := [0x42, 0x4D] ++ littleEndian 4 (54 + body.length) ++ littleEndian 4 0
    ++ littleEndian 4 54 ++ littleEndian 4 40 ++ littleEndian 4 image.width
    ++ littleEndian 4 image.height ++ littleEndian 2 1 ++ littleEndian 2 24
    ++ littleEndian 4 0 ++ littleEndian 4 body.length ++ littleEndian 4 2835
    ++ littleEndian 4 2835 ++ littleEndian 4 0 ++ littleEndian 4 0
  header ++ body

end Chip8.Picture
