-- A screen in a picture window. A refresh shows the pixels, each as a square
-- of equal colour; between two refreshes the window keeps its picture.
import Chip8.Picture.Image
namespace Chip8

/-- A screen in a picture window, with what the window shows. The colours have
shades, and the platform has room for the image of the pixels. -/
structure Canvas where
  platform : Platform
  grid : Grid
  scale : Int
  scheme : Scheme
  shades : Image.Shades
  window : Image
  hasRoom : Image.shadesInRoom platform grid scale scheme = .ok shades

namespace Canvas

/-! ## Windows -/

/-- The height and the width of a window for which these sides are asked.
Sides are counted in 32 bits, a window without a size fills the desktop, and
there is no window without a side. -/
def windowSize (p : Platform) (height width : Int) : Except Refusal (Nat × Nat) :=
  if !Text.fitsWord width then .error .uncountedWindow
  else
    let h := height.bmod 0x100000000
    let w := width.bmod 0x100000000
    if w < 0 ∨ h < 0 then .error .negativeWindow
    else if w = 0 ∧ h = 0 then .ok p.desktop
    else if p.longestSide < w ∨ p.longestSide < h then .error .windowTooLarge
    else .ok ((max h 1).toNat, (max w 1).toNat)

/-- A blank screen in a dark window of a size, if there is room for its image. -/
def inWindow (p : Platform) (size : Nat × Nat) (scale : Int) (scheme : Scheme) :
    Except Refusal Canvas :=
  match hasRoom : Image.shadesInRoom p .standard scale scheme with
  | .ok shades =>
    .ok { platform := p, grid := .standard, scale, scheme, shades
          window := .dark size.1 size.2, hasRoom }
  | .error r => .error r

/-! ## Showing pixels -/

/-- The image of the pixels. -/
def image (c : Canvas) : Image := .drawn c.grid c.scale c.shades

theorem inRoom_eq_image (c : Canvas) :
    Image.inRoom c.platform c.grid c.scale c.scheme = .ok c.image := by
  unfold Image.inRoom
  rw [c.hasRoom]
  rfl

/-- The canvas after its pixels were shown. -/
def refresh (c : Canvas) : Canvas := { c with window := c.image.laidOn c.window }

/-- The canvas with other pixels, on a grid of the same size. -/
def withGrid (c : Canvas) (g : Grid) (h : g.SameSize c.grid) : Canvas :=
  { c with
    grid := g
    hasRoom := (Image.shadesInRoom_of_sameSize h).trans c.hasRoom }

instance : Screen Canvas where
  get c := c.grid.get
  set c x y bit := c.withGrid (c.grid.set x y bit) (c.grid.sameSize_set x y bit)
  clear c := c.withGrid c.grid.clear ⟨rfl, rfl⟩
  refresh := refresh

end Canvas

end Chip8
