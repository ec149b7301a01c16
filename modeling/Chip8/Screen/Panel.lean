-- A screen in a text window. Each pixel takes two characters inside a border;
-- a pixel that changes is written at once, and a refresh shows the window.
import Chip8.Screen.Grid
namespace Chip8

/-- A call to the text window. -/
inductive WindowCall where
  /-- The border is drawn. -/
  | box
  /-- Everything goes blank, the border too. -/
  | erase
  /-- The window is shown. -/
  | refresh
  /-- A text is written from a row and a column on. -/
  | write (row column : Int) (text : String)
deriving DecidableEq, Repr

/-- The rows of the window: the picture and the border. -/
def panelRows : Nat := screenHeight + 2

/-- The columns of the window: two for each pixel, and the border. -/
def panelColumns : Nat := 2 * screenWidth + 2

/-- The usual screen in a text window, with the calls made so far, the
latest in front. -/
structure Panel where
  grid : Grid
  calls : List WindowCall

namespace Panel

/-- The two characters of a pixel. -/
def cellText (bit : Int) : String := if bit = 0 then "  " else "██"

/-- A blank screen, with the border drawn. -/
def blank : Panel := ⟨.standard, [.box]⟩

/-- The panel with a pixel changed. A value that the pixel already has is
not written again. -/
def set (p : Panel) (x y bit : Int) : Panel :=
  let calls :=
    if p.grid.get x y ≠ bit ∧ p.grid.InBounds x y then
      .write (y + 1) (2 * x + 1) (cellText bit) :: p.calls
    else p.calls
  ⟨p.grid.set x y bit, calls⟩

/-- The panel with every pixel out and a new border. -/
def clear (p : Panel) : Panel := ⟨p.grid.clear, .box :: .erase :: p.calls⟩

/-- The panel after its window was shown. -/
def refresh (p : Panel) : Panel := { p with calls := .refresh :: p.calls }

instance : Screen Panel where
  get p := p.grid.get
  set := set
  clear := clear
  refresh := refresh

end Panel

end Chip8
