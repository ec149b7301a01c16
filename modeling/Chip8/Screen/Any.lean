-- A screen of any kind.
import Chip8.Screen.Canvas
import Chip8.Screen.Panel
import Chip8.Screen.Basic
namespace Chip8

/-- A screen of any kind. -/
inductive AnyScreen where
  | sparse (s : SparseScreen)
  | grid (g : Grid)
  | panel (p : Panel)
  | canvas (c : Canvas)
  /-- A screen in a window that there is no room to show it in. -/
  | hidden (g : Grid) (why : Refusal)

namespace AnyScreen

/-- The pixel at a column and a row. -/
def get : AnyScreen → Int → Int → Int
  | sparse s => Screen.get s
  | grid g | hidden g _ => Screen.get g
  | panel p => Screen.get p
  | canvas c => Screen.get c

/-- The screen with a pixel changed. -/
def set : AnyScreen → Int → Int → Int → AnyScreen
  | sparse s, x, y, bit => sparse (Screen.set s x y bit)
  | grid g, x, y, bit => grid (Screen.set g x y bit)
  | panel p, x, y, bit => panel (Screen.set p x y bit)
  | canvas c, x, y, bit => canvas (Screen.set c x y bit)
  | hidden g why, x, y, bit => hidden (Screen.set g x y bit) why

/-- The screen with every pixel out. -/
def clear : AnyScreen → AnyScreen
  | sparse s => sparse (Screen.clear s)
  | grid g => grid (Screen.clear g)
  | panel p => panel (Screen.clear p)
  | canvas c => canvas (Screen.clear c)
  | hidden g why => hidden (Screen.clear g) why

/-- Why the screen cannot be shown. -/
def problem? : AnyScreen → Option Refusal
  | hidden _ why => some why
  | _ => none

/-- The screen after it was shown. One that cannot be shown stays as it is. -/
def refresh : AnyScreen → AnyScreen
  | sparse s => sparse (Screen.refresh s)
  | grid g => grid (Screen.refresh g)
  | panel p => panel (Screen.refresh p)
  | canvas c => canvas (Screen.refresh c)
  | hidden g why => hidden g why

instance : Screen AnyScreen := ⟨get, set, clear, refresh⟩

/-- The grid of a screen that has edges. -/
def grid? : AnyScreen → Option Grid
  | sparse _ => none
  | grid g | hidden g _ => some g
  | panel p => some p.grid
  | canvas c => some c.grid

/-! ## Windows -/

/-- A blank screen in a window of a size. Whether there is room to show it is
not looked at before it is shown. -/
def inWindow (p : Platform) (size : Nat × Nat) (scale : Int) (scheme : Scheme) : AnyScreen :=
  match Canvas.inWindow p size scale scheme with
  | .ok c => canvas c
  | .error why => hidden .standard why

/-- A blank screen in a window that is opened for it. -/
def ofScale (p : Platform) (scale : Int) (scheme : String) : Except Refusal AnyScreen := do
  let size ← Canvas.windowSize p (screenHeight * scale) (screenWidth * scale)
  return inWindow p size scale (← Scheme.ofName scheme)

end AnyScreen

end Chip8
