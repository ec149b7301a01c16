-- Requests for pictures with values of any kind, and the answers: images by
-- index, with equal rows counted.
import Chip8.Picture.Image
import Chip8.Request.Values
import Chip8.Text.Conversion
namespace Chip8

open Text

/-! ## Colours -/

/-- A component of a colour. -/
def componentOf (v : Value) : Except ValueProblem Int := do
  let n ← v.toWhole
  if n < 0 ∨ 0xFF < n then .error (.notByte n) else return n

/-- The colour of a value: its components, or its only one. -/
def colorOf : Value → Except ValueProblem Color
  | .list vs => vs.mapM componentOf
  | v => return [← componentOf v]

/-- The colour that a request gives, or another one if it gives none. -/
def colorOr (request : Value) (name : String) (otherwise : Color) : Except Refusal Color :=
  match request.field? name with
  | some v => ofValue (colorOf v)
  | none => .ok otherwise

/-- The colours of a request: the usual ones unless it gives others. -/
def Scheme.ofRequest (request : Value) : Except Refusal Scheme := do
  return ⟨← colorOr request "on_color" classic.lit, ← colorOr request "off_color" classic.unlit⟩

/-- The scheme that a value names. -/
def Scheme.ofValue (name : Value) : Except Refusal Scheme := do
  ofName (← Chip8.ofValue name.asKey).shown

/-- The scheme that a request names, or the usual one. -/
def Scheme.ofField (request : Value) (name : String) : Except Refusal Scheme :=
  ofValue (fieldOr request name (.text "classic"))

/-! ## Images -/

/-- The scale that a request asks for unless it says so. -/
def defaultScale : Value := .whole 8

/-- The scale of a value. One above one loses its fraction, and every other
one leaves the size as it is. -/
def scaleOf (v : Value) : Except ValueProblem Int := do
  if ← v.isAbove (.whole 1) then v.toWhole else return 1

/-- The image of a grid in the scale of a request. Its colours are looked at
before its scale. -/
def Image.ofRequest (g : Grid) (scheme : Scheme) (request : Value) : Except Refusal Image := do
  let _ ← shades g scheme
  inRoom .usual g (← ofValue (scaleOf (fieldOr request "scale" defaultScale))) scheme

/-! ## Texts -/

/-- The text that texts make side by side. -/
def joined (symbols : List Value) : Except ValueProblem String :=
  match symbols.zipIdx.find? fun (v, _) => v.text?.isNone with
  | some (v, place) => .error (.noTextAt place v.kind)
  | none => .ok (String.join (symbols.filterMap (·.text?)))

/-- The grid as lines of text, with the symbols of a request. A symbol that no
pixel needs can be anything. -/
def Grid.textOf (g : Grid) (request : Value) : Except ValueProblem String := do
  let lit := fieldOr request "on" (.text "█")
  let unlit := fieldOr request "off" (.text " ")
  let lines ← g.rows.mapM fun row => joined (row.map fun pixel => if pixel then lit else unlit)
  return String.intercalate "\n" lines

/-! ## Images by index -/

/-- An image as a palette, and rows of places in it, each with the number of
times that it stands below itself. -/
structure IndexedImage where
  palette : List (List Nat)
  rows : List (Nat × List Nat)
deriving DecidableEq, Repr

namespace IndexedImage

/-- Adds a colour to a palette unless it is there. -/
def addColor (palette : List (List Nat)) (color : List Nat) : List (List Nat) :=
  if palette.contains color then palette else palette ++ [color]

/-- The colours of rows in the order of their first appearance. -/
def paletteOf (rows : List (List (List Nat))) : List (List Nat) :=
  rows.foldl (fun palette row => row.foldl addColor palette) []

/-- Equal elements that follow each other, counted. -/
def counted {α : Type} [DecidableEq α] : List α → List (Nat × α)
  | [] => []
  | a :: rest =>
    match counted rest with
    | (n, b) :: more => if a = b then (n + 1, b) :: more else (1, a) :: (n, b) :: more
    | [] => [(1, a)]

def ofImage (image : Image) : IndexedImage :=
  let palette := paletteOf image.rows
  ⟨palette, (counted image.rows).map fun (n, row) => (n, row.map palette.idxOf)⟩

end IndexedImage

end Chip8
