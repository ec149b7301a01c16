-- Requests for screens with values of any kind.
import Chip8.Picture.Request
import Chip8.Screen.Any
namespace Chip8

open Text

/-! ## Grids -/

namespace Grid

/-- A side of a grid. Flags are no sides. -/
def sideOf (v : Value) : Except Refusal Int := do
  let side ← match v with
    | .flag _ => .error (.value .noSize)
    | v => ofValue v.toCount
  if fitsWord side then return side else .error .sideTooLarge

/-- The blank grid of a request. -/
def ofRequest (request : Value) : Except Refusal Grid := do
  let width ← sideOf (fieldOr request "width" (.whole screenWidth))
  let height ← sideOf (fieldOr request "height" (.whole screenHeight))
  ofSize .usual width height

/-- Whether a number is a place along a side. -/
def onSide (side : Nat) (v : Value) : Except ValueProblem Bool := do
  if ← (Value.whole 0).isAtMost v then v.isBelow (.whole side) else return false

/-- The grid with every pixel of a column lit. -/
def lightColumn (g : Grid) (x : Nat) : Grid :=
  (List.range g.height).foldl (fun g (y : Nat) => g.set x y 1) g

/-- The grid with a pixel lit, if it is on the grid. Flags are no coordinates:
they take whole columns of the grid, or nothing. -/
def light (g : Grid) (x y : Value) : Except ValueProblem Grid := do
  if !(← onSide g.width x) then return g
  else if !(← onSide g.height y) then return g
  else match x, y with
    | .flag false, .flag _ | .flag true, .flag false => return g
    | .flag true, .flag true => return (List.range g.width).foldl lightColumn g
    | .flag takes, .whole column | .whole column, .flag takes =>
      if g.width ≤ column then .error (.outsideTable column g.width)
      else return if takes then g.lightColumn column.toNat else g
    | .whole x, .whole y => return g.set x y 1
    | _, _ => .error .noTablePlace

/-- The grid of a request, with some of its pixels lit. -/
def litOfRequest (request : Value) : Except Refusal Grid := do
  let blank ← ofRequest request
  (← ofValue (fieldOr request "lit" (.list [])).toElements).foldlM (fun g pair => do
    let (x, y) ← ofValue pair.toPair
    ofValue (g.light x y)) blank

end Grid

/-! ## Windows -/

namespace AnyScreen

/-- The side that is asked for a window that shows so many pixels in a scale.
A double is cut to a whole number of 32 bits. -/
def sideOf (pixels : Nat) (scale : Value) : Except Refusal Int :=
  match scale, scale.whole? with
  | .float f, _ =>
    match (Value.float (pixels.toFloat * f)).toWhole with
    | .ok side => .ok (if fitsHalfWord side then side else -0x80000000)
    | .error _ => .ok (-0x80000000)
  | _, some n => .ok (pixels * n)
  | .text _, none | .list _, none => .error .uncountedWindow
  | v, none => .error (.value (.noOperation "*" "int" v.kind))

/-- The screen of a request in a window that is opened for it. -/
def windowOfRequest (request : Value) : Except Refusal AnyScreen := do
  let scale := fieldOr request "scale" defaultScale
  let height ← sideOf screenHeight scale
  let size ← Canvas.windowSize .usual height (← sideOf screenWidth scale)
  let scheme ← Scheme.ofField request "scheme"
  return inWindow .usual size (← ofValue (scaleOf scale)) scheme

def ofRequest (request : Value) : Except Refusal AnyScreen :=
  match (request.field "kind").text? with
  | some "array" => (Grid.ofRequest request).map .grid
  | some "curses" => .ok (.panel .blank)
  | some "pygame" => windowOfRequest request
  | _ => .ok (.sparse .empty)

end AnyScreen

end Chip8
