-- What the machine draws on: a plane of pixels with whole-number
-- coordinates. A pixel is a number, 0 when it is out and 1 when it is lit.
-- One such screen has no edges: it keeps every pixel that was ever set, whatever
-- its place and its value, until it is cleared.
import Std.Data.HashMap
namespace Chip8

/-- The number of pixels in a row of the usual screen. -/
def screenWidth : Nat := 64

/-- The number of rows of the usual screen. -/
def screenHeight : Nat := 32

/-- Anything that pixels can be read from and written to. -/
class Screen (σ : Type) where
  /-- The pixel at a column and a row. -/
  get : σ → Int → Int → Int
  /-- The screen with a pixel changed. -/
  set : σ → Int → Int → Int → σ
  /-- The screen with every pixel out. -/
  clear : σ → σ
  /-- The screen after it was shown. -/
  refresh : σ → σ

/-! ## A screen without edges -/

/-- The pixels that were set, by column and row. -/
structure SparseScreen where
  pixels : Std.HashMap (Int × Int) Int

namespace SparseScreen

/-- No pixel was set. -/
def empty : SparseScreen := ⟨{}⟩

/-- The pixel at a column and a row, out if it was never set. -/
def get (s : SparseScreen) (x y : Int) : Int := s.pixels.getD (x, y) 0

def set (s : SparseScreen) (x y bit : Int) : SparseScreen := ⟨s.pixels.insert (x, y) bit⟩

theorem get_empty (x y : Int) : empty.get x y = 0 := by simp [get, empty]

theorem get_set (s : SparseScreen) (x y bit p q : Int) :
    (s.set x y bit).get p q = if p = x ∧ q = y then bit else s.get p q := by
  simp only [get, set, Std.HashMap.getD_insert, beq_iff_eq, Prod.mk.injEq]
  by_cases h : x = p ∧ y = q
  · simp [h]
  · rw [if_neg h, if_neg]
    exact fun e => h ⟨e.1.symm, e.2.symm⟩

/-- Every pixel that was set, with its value. -/
def entries (s : SparseScreen) : List ((Int × Int) × Int) := s.pixels.toList

instance : Screen SparseScreen where
  get := get
  set := set
  clear _ := empty
  refresh := id

end SparseScreen

end Chip8
