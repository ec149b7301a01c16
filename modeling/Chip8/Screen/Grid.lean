-- A screen with edges. Pixels outside it are always out, and writes there
-- are lost.
import Chip8.Screen.Basic
import Chip8.Screen.Room
namespace Chip8

/-- A picture of fixed size, row by row. -/
structure Grid where
  width : Nat
  height : Nat
  cells : Vector Bool (height * width)
deriving DecidableEq

namespace Grid

/-- A grid with every pixel out. -/
def blank (width height : Nat) : Grid :=
  ⟨width, height, Vector.replicate (height * width) false⟩

/-- The usual screen with every pixel out. -/
def standard : Grid := blank screenWidth screenHeight

/-- A blank grid of a size that may be given wrong. -/
def ofSize (p : Platform) (width height : Int) : Except Refusal Grid :=
  if !Text.fitsWord width || !Text.fitsWord height then .error .sideTooLarge
  else do
    Room.check p [width, height] "bool"
    return blank width.toNat height.toNat

/-- Whether a coordinate pair is on the grid. -/
def InBounds (g : Grid) (x y : Int) : Prop :=
  0 ≤ x ∧ x < g.width ∧ 0 ≤ y ∧ y < g.height

instance (g : Grid) (x y : Int) : Decidable (g.InBounds x y) :=
  inferInstanceAs (Decidable (_ ∧ _))

/-- The place of a pixel among the cells. -/
def place (g : Grid) (x y : Int) : Nat := y.toNat * g.width + x.toNat

/-- The place of a pixel on the grid is one of a cell. -/
theorem place_lt {g : Grid} {x y : Int} (h : g.InBounds x y) :
    g.place x y < g.height * g.width := by
  obtain ⟨hx, hxw, hy, hyh⟩ := h
  have h1 : x.toNat < g.width := by omega
  have h2 : y.toNat + 1 ≤ g.height := by omega
  calc g.place x y < y.toNat * g.width + g.width := by unfold place; omega
    _ = (y.toNat + 1) * g.width := by rw [Nat.add_mul, Nat.one_mul]
    _ ≤ g.height * g.width := Nat.mul_le_mul_right _ h2

/-- Whether a pixel is lit. -/
def lit (g : Grid) (x y : Int) : Bool :=
  if h : g.InBounds x y then
    have := place_lt h
    g.cells[g.place x y]
  else false

/-- The pixel at a column and a row. -/
def get (g : Grid) (x y : Int) : Int := if g.lit x y then 1 else 0

/-- The grid with a pixel lit, or out if the value is zero. -/
def set (g : Grid) (x y bit : Int) : Grid :=
  if h : g.InBounds x y then
    { g with cells := g.cells.set (g.place x y) (bit != 0) (place_lt h) }
  else g

/-- The grid of the same size with every pixel out. -/
def clear (g : Grid) : Grid := blank g.width g.height

/-- The pixels of one row, from the left. -/
def row (g : Grid) (y : Nat) : List Bool :=
  (List.range g.width).map fun (x : Nat) => g.lit x y

/-- The rows of the grid, from the top. -/
def rows (g : Grid) : List (List Bool) := (List.range g.height).map g.row

/-! ## What a write changes -/

/-- Grids with the same number of columns and of rows. -/
def SameSize (g g' : Grid) : Prop := g.width = g'.width ∧ g.height = g'.height

theorem SameSize.trans {g g' g'' : Grid} (h : g.SameSize g') (h' : g'.SameSize g'') :
    g.SameSize g'' :=
  ⟨h.1.trans h'.1, h.2.trans h'.2⟩

theorem SameSize.symm {g g' : Grid} (h : g.SameSize g') : g'.SameSize g := ⟨h.1.symm, h.2.symm⟩

/-- Two pixels of the grid do not share a cell. -/
theorem place_inj {g : Grid} {x y p q : Int} (h : g.InBounds x y) (h' : g.InBounds p q)
    (e : g.place x y = g.place p q) : x = p ∧ y = q := by
  obtain ⟨hx, hxw, hy, hyh⟩ := h
  obtain ⟨hp, hpw, hq, hqh⟩ := h'
  unfold place at e
  have hw : 0 < g.width := by omega
  have e1 := congrArg (· / g.width) e
  have e2 := congrArg (· % g.width) e
  simp only [Nat.mul_comm _ g.width, Nat.mul_add_div hw, Nat.mul_add_mod] at e1 e2
  rw [Nat.div_eq_of_lt (by omega), Nat.div_eq_of_lt (by omega)] at e1
  rw [Nat.mod_eq_of_lt (by omega), Nat.mod_eq_of_lt (by omega)] at e2
  omega

theorem lit_of_not_inBounds {g : Grid} {x y : Int} (h : ¬ g.InBounds x y) : g.lit x y = false :=
  dif_neg h

theorem lit_blank (width height : Nat) (x y : Int) : (blank width height).lit x y = false := by
  unfold lit
  split <;> simp [blank]

theorem inBounds_set {g : Grid} {x y bit p q : Int} :
    (g.set x y bit).InBounds p q ↔ g.InBounds p q := by
  unfold set
  split <;> rfl

theorem sameSize_set (g : Grid) (x y bit : Int) : (g.set x y bit).SameSize g := by
  unfold set
  split <;> exact ⟨rfl, rfl⟩

/-- A write changes its own pixel, if that is on the grid, and no other. -/
theorem lit_set (g : Grid) (x y bit p q : Int) :
    (g.set x y bit).lit p q =
      if g.InBounds p q ∧ p = x ∧ q = y then bit != 0 else g.lit p q := by
  by_cases hp : g.InBounds p q
  · by_cases h : g.InBounds x y
    · have hlt := place_lt hp
      have h1 : (g.set x y bit).lit p q
          = (g.cells.set (g.place x y) (bit != 0) (place_lt h))[g.place p q] := by
        rw [set, dif_pos h]
        exact dif_pos (show Grid.InBounds _ p q from hp)
      have h2 : g.lit p q = g.cells[g.place p q] := dif_pos hp
      rw [h1, h2, Vector.getElem_set]
      by_cases e : p = x ∧ q = y
      · obtain ⟨rfl, rfl⟩ := e
        simp [hp]
      · have hne : g.place x y ≠ g.place p q := fun hpl =>
          e ⟨(place_inj h hp hpl).1.symm, (place_inj h hp hpl).2.symm⟩
        rw [if_neg hne, if_neg fun hpq => e hpq.2]
    · rw [set, dif_neg h, if_neg]
      rintro ⟨hp, rfl, rfl⟩
      exact h hp
  · rw [lit_of_not_inBounds (mt inBounds_set.1 hp), lit_of_not_inBounds hp,
      if_neg fun e => hp e.1]

instance : Screen Grid where
  get := get
  set := set
  clear := clear
  refresh := id

end Grid

end Chip8
