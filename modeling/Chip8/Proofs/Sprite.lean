-- What drawing a sprite does to a screen that keeps its pixels: those under the
-- set bits flip, and the others stay.
import Mathlib.Data.List.Nodup
import Mathlib.Data.Nat.Bits
import Chip8.Cycle
import Chip8.Screen.Grid
namespace Chip8

/-! ## Grids -/

namespace Grid

variable {g g' : Grid}

theorem SameSize.inBounds_iff (h : g.SameSize g') (p q : Int) :
    g.InBounds p q ↔ g'.InBounds p q := by
  unfold InBounds
  rw [h.1, h.2]

theorem inBounds_of_lit {p q : Int} (h : g.lit p q = true) : g.InBounds p q := by
  by_contra hout
  rw [lit_of_not_inBounds hout] at h
  cases h

/-- Grids of one size with the same pixels are equal. -/
theorem ext_lit (hsize : g'.SameSize g) (h : ∀ p q, g.InBounds p q → g'.lit p q = g.lit p q) :
    g' = g := by
  obtain ⟨width, height, cells⟩ := g
  obtain ⟨width', height', cells'⟩ := g'
  obtain ⟨rfl, rfl⟩ : width' = width ∧ height' = height := hsize
  suffices hcells : cells' = cells by rw [hcells]
  ext k hk
  -- the cell of a place is the pixel at its remainder and its quotient
  have hpos : 0 < width' := Nat.pos_of_lt_mul_left hk
  have hrow : k / width' < height' := (Nat.div_lt_iff_lt_mul hpos).2 hk
  have hcolumn : k % width' < width' := Nat.mod_lt k hpos
  have hin : (Grid.mk width' height' cells).InBounds (k % width' : Nat) (k / width' : Nat) :=
    ⟨Int.natCast_nonneg _, Int.ofNat_lt.2 hcolumn, Int.natCast_nonneg _, Int.ofNat_lt.2 hrow⟩
  have hin' : (Grid.mk width' height' cells').InBounds (k % width' : Nat) (k / width' : Nat) := hin
  have hplace : k / width' * width' + k % width' = k := by
    rw [Nat.mul_comm]
    exact Nat.div_add_mod k width'
  have hpixel := h _ _ hin
  unfold lit at hpixel
  rw [dif_pos hin, dif_pos hin'] at hpixel
  simpa only [place, Int.toNat_natCast, hplace] using hpixel

end Grid

/-! ## Placements -/

/-- A sprite with its left upper corner at a place of the screen. Each row is
shown from its highest bit to its lowest. -/
structure Placement where
  x : UInt8
  y : UInt8
  rows : List UInt8
deriving DecidableEq

namespace Placement

/-- The sprite has a set bit at a pixel. -/
def Lit (s : Placement) (p q : Int) : Prop :=
  0 ≤ p - s.x.toNat ∧ p - s.x.toNat < 8 ∧ 0 ≤ q - s.y.toNat ∧
    ((s.rows[(q - s.y.toNat).toNat]?).getD 0).toNat.testBit (7 - (p - s.x.toNat).toNat) = true

instance (s : Placement) (p q : Int) : Decidable (s.Lit p q) :=
  inferInstanceAs (Decidable (_ ∧ _))

/-- The pixels that the sprite covers, with their bits. -/
def cells (s : Placement) : List (Int × Int × Int) := spriteCells s.x.toNat s.y.toNat s.rows

end Placement

theorem spriteBit_eq (row : UInt8) (column : Nat) :
    spriteBit row column = if row.toNat.testBit (7 - column) then 1 else 0 := by
  unfold spriteBit
  rw [Nat.testBit_eq_decide_div_mod_eq, Nat.and_one_is_mod, Nat.shiftRight_eq_div_pow]
  rcases Nat.mod_two_eq_zero_or_one (row.toNat / 2 ^ (7 - column)) with h | h <;> simp [h]

theorem mem_spriteCells {x y : Int} {rows : List UInt8} {cell : Int × Int × Int} :
    cell ∈ spriteCells x y rows ↔ ∃ (row : UInt8) (down right : Nat), rows[down]? = some row ∧
      right < 8 ∧ cell = (x + right, y + down, spriteBit row right) := by
  unfold spriteCells spriteWidth
  simp only [List.mem_flatMap, List.mem_map, List.mem_range, List.mem_zipIdx_iff_getElem?,
    Prod.exists]
  grind

theorem nodup_spriteCells (x y : Int) (rows : List UInt8) : (spriteCells x y rows).Nodup := by
  unfold spriteCells
  refine List.nodup_flatMap.2 ⟨fun row _ => ?_, ?_⟩
  · refine List.Nodup.map (fun a b hab => ?_) List.nodup_range
    simp only [Prod.mk.injEq] at hab
    omega
  · have hdistinct : rows.zipIdx.Pairwise fun a b => a.2 ≠ b.2 := by
      rw [← List.pairwise_map, List.zipIdx_map_snd]
      exact List.nodup_range'
    refine hdistinct.imp fun {a b} hab => ?_
    intro cell ha hb
    simp only [List.mem_map, List.mem_range] at ha hb
    obtain ⟨right, -, rfl⟩ := ha
    obtain ⟨right', -, hcell⟩ := hb
    simp only [Prod.mk.injEq] at hcell
    omega

namespace Placement

theorem nodup_cells (s : Placement) : s.cells.Nodup := nodup_spriteCells _ _ _

theorem mem_cells_iff {s : Placement} {p q : Int} : (p, q, 1) ∈ s.cells ↔ s.Lit p q := by
  unfold cells Lit
  rw [mem_spriteCells]
  simp only [spriteBit_eq, Prod.mk.injEq]
  constructor
  · rintro ⟨row, down, right, hrow, hright, rfl, rfl, hbit⟩
    refine ⟨by omega, by omega, by omega, ?_⟩
    have hdown : ((s.y.toNat : Int) + down - s.y.toNat).toNat = down := by omega
    have hcolumn : ((s.x.toNat : Int) + right - s.x.toNat).toNat = right := by omega
    rw [hdown, hcolumn, hrow, Option.getD_some]
    by_contra hdark
    simp [hdark] at hbit
  · rintro ⟨hleft, hright, hup, hbit⟩
    cases hrow : s.rows[(q - s.y.toNat).toNat]? with
    | none =>
      rw [hrow] at hbit
      simp at hbit
    | some row =>
      rw [hrow, Option.getD_some] at hbit
      refine ⟨row, _, (p - s.x.toNat).toNat, hrow, by omega, by omega, by omega, ?_⟩
      rw [if_pos hbit]

end Placement

/-! ## Screens that keep pixels -/

/-- A screen that keeps the pixels it covers. Elsewhere every pixel is out, and
writes are lost. -/
class Plane (σ : Type) [Screen σ] where
  covers : σ → Int → Int → Bool
  covers_set : ∀ (s : σ) (x y bit : Int), covers (Screen.set s x y bit) = covers s
  get_set_self : ∀ {s : σ} {x y bit : Int}, covers s x y = true → bit = 0 ∨ bit = 1 →
    Screen.get (Screen.set s x y bit) x y = bit
  get_set_ne : ∀ {s : σ} {x y p q : Int} (bit : Int), (p, q) ≠ (x, y) →
    Screen.get (Screen.set s x y bit) p q = Screen.get s p q
  get_of_not_covers : ∀ {s : σ} {p q : Int}, covers s p q = false → Screen.get s p q = 0

/-- No pixel is anything but out or lit. -/
def TwoValued {σ : Type} [Screen σ] (s : σ) : Prop :=
  ∀ p q, Screen.get s p q = 0 ∨ Screen.get s p q = 1

namespace Grid

theorem get_eq_one_iff {g : Grid} {p q : Int} : Screen.get g p q = 1 ↔ g.lit p q = true := by
  show (if g.lit p q then (1 : Int) else 0) = 1 ↔ _
  cases g.lit p q <;> simp

theorem twoValued (g : Grid) : TwoValued g := by
  intro p q
  show (if g.lit p q then (1 : Int) else 0) = 0 ∨ (if g.lit p q then (1 : Int) else 0) = 1
  cases g.lit p q <;> simp

instance : Plane Grid where
  covers g p q := decide (g.InBounds p q)
  covers_set g x y bit := by
    funext p q
    exact decide_eq_decide.2 inBounds_set
  get_set_self {g x y bit} hin hbit := by
    have hlit : (g.set x y bit).lit x y = (bit != 0) := by
      rw [lit_set, if_pos ⟨of_decide_eq_true hin, rfl, rfl⟩]
    show (if (g.set x y bit).lit x y then (1 : Int) else 0) = bit
    rw [hlit]
    rcases hbit with rfl | rfl <;> rfl
  get_set_ne {g x y p q} bit hne := by
    have hlit : (g.set x y bit).lit p q = g.lit p q := by
      rw [lit_set, if_neg fun h => hne (Prod.ext h.2.1 h.2.2)]
    show (if (g.set x y bit).lit p q then (1 : Int) else 0) = if g.lit p q then 1 else 0
    rw [hlit]
  get_of_not_covers {g p q} hout := by
    show (if g.lit p q then (1 : Int) else 0) = 0
    rw [lit_of_not_inBounds (of_decide_eq_false hout)]
    rfl

end Grid

/-! ## Plotting -/

theorem bitXor_zero (v : Int) : bitXor v 0 = v := by
  cases v with
  | ofNat n => exact congrArg Int.ofNat (Nat.xor_zero n)
  | negSucc n => exact congrArg Int.negSucc (Nat.xor_zero n)

theorem sameSize_plot (s : Grid × Bool) (cell : Int × Int × Int) :
    (plot s cell).1.SameSize s.1 :=
  Grid.sameSize_set s.1 _ _ _

theorem sameSize_foldl_plot (cells : List (Int × Int × Int)) (s : Grid × Bool) :
    (cells.foldl plot s).1.SameSize s.1 := by
  induction cells generalizing s with
  | nil => exact ⟨rfl, rfl⟩
  | cons cell rest ih => exact (ih (plot s cell)).trans (sameSize_plot s cell)

section
variable {σ : Type} [Screen σ] {s : σ × Bool}

/-- A lit pixel goes out where a set bit falls on it. -/
theorem hit_plot (hs : TwoValued s.1) {x y bit : Int} (hbit : bit = 0 ∨ bit = 1) :
    (plot s (x, y, bit)).2 = true ↔ s.2 = true ∨ bit = 1 ∧ Screen.get s.1 x y = 1 := by
  show (s.2 || (Screen.get s.1 x y == 1 && bitXor (Screen.get s.1 x y) bit == 0)) = true ↔ _
  rcases hs x y with h | h <;> rcases hbit with rfl | rfl <;> rw [h] <;> cases s.2 <;> decide

variable [Plane σ] {cells : List (Int × Int × Int)}

open Plane

theorem covers_plot (s : σ × Bool) (cell : Int × Int × Int) :
    covers (plot s cell).1 = covers s.1 :=
  covers_set s.1 _ _ _

/-- A bit is added to its own pixel, if the screen covers that, and to no other. -/
theorem get_plot (hs : TwoValued s.1) {x y bit : Int} (hbit : bit = 0 ∨ bit = 1) (p q : Int) :
    Screen.get (plot s (x, y, bit)).1 p q =
      bitXor (Screen.get s.1 p q) (if covers s.1 p q ∧ (p, q) = (x, y) then bit else 0) := by
  have hsum : bitXor (Screen.get s.1 x y) bit = 0 ∨ bitXor (Screen.get s.1 x y) bit = 1 := by
    rcases hs x y with h | h <;> rcases hbit with rfl | rfl <;> rw [h] <;> decide
  show Screen.get (Screen.set s.1 x y (bitXor (Screen.get s.1 x y) bit)) p q = _
  by_cases hcovers : covers s.1 p q = true
  · by_cases hplace : (p, q) = (x, y)
    · obtain ⟨rfl, rfl⟩ := Prod.mk.inj hplace
      rw [get_set_self hcovers hsum, if_pos ⟨hcovers, rfl⟩]
    · rw [get_set_ne _ hplace, if_neg fun h => hplace h.2, bitXor_zero]
  · have hout := Bool.eq_false_iff.2 hcovers
    have hout' : covers (Screen.set s.1 x y (bitXor (Screen.get s.1 x y) bit)) p q = false := by
      rw [covers_set]
      exact hout
    rw [get_of_not_covers hout', get_of_not_covers hout, if_neg fun h => hcovers h.1]
    rfl

theorem twoValued_plot (hs : TwoValued s.1) {x y bit : Int} (hbit : bit = 0 ∨ bit = 1) :
    TwoValued (plot s (x, y, bit)).1 := by
  intro p q
  rw [get_plot hs hbit]
  split
  · rcases hs p q with h | h <;> rcases hbit with rfl | rfl <;> rw [h] <;> decide
  · rw [bitXor_zero]
    exact hs p q

variable (hs : TwoValued s.1) (hbits : ∀ cell ∈ cells, cell.2.2 = 0 ∨ cell.2.2 = 1)
variable (hnodup : cells.Nodup)
include hs hbits hnodup

theorem get_foldl_plot (p q : Int) :
    Screen.get (cells.foldl plot s).1 p q =
      bitXor (Screen.get s.1 p q) (if covers s.1 p q ∧ (p, q, 1) ∈ cells then 1 else 0) := by
  induction cells generalizing s with
  | nil => simp [bitXor_zero]
  | cons cell rest ih =>
    obtain ⟨x, y, bit⟩ := cell
    obtain ⟨hfirst, hrest⟩ := List.forall_mem_cons.1 hbits
    obtain ⟨hnew, htail⟩ := List.nodup_cons.1 hnodup
    rw [List.foldl_cons, ih (twoValued_plot hs hfirst) hrest htail, get_plot hs hfirst,
      covers_plot]
    by_cases hcovers : covers s.1 p q = true
    · by_cases hplace : (p, q) = (x, y)
      · obtain ⟨rfl, rfl⟩ := Prod.mk.inj hplace
        rcases hfirst with hbit | hbit
        · obtain rfl : bit = 0 := hbit
          simp [hcovers, bitXor_zero]
        · obtain rfl : bit = 1 := hbit
          simp [hcovers, hnew, bitXor_zero]
      · have hne : (p, q, (1 : Int)) ≠ (x, y, bit) := fun h =>
          hplace (Prod.ext (congrArg (·.1) h) (congrArg (·.2.1) h))
        simp [hcovers, hplace, hne, bitXor_zero]
    · simp [hcovers, bitXor_zero]

theorem hit_foldl_plot :
    (cells.foldl plot s).2 = true ↔
      s.2 = true ∨ ∃ p q, (p, q, 1) ∈ cells ∧ Screen.get s.1 p q = 1 := by
  induction cells generalizing s with
  | nil => simp
  | cons cell rest ih =>
    obtain ⟨x, y, bit⟩ := cell
    obtain ⟨hfirst, hrest⟩ := List.forall_mem_cons.1 hbits
    obtain ⟨hnew, htail⟩ := List.nodup_cons.1 hnodup
    -- no later bit falls on the pixel that was plotted first
    have hlater (p q : Int) (h : (p, q, 1) ∈ rest) :
        Screen.get (plot s (x, y, bit)).1 p q = Screen.get s.1 p q := by
      rw [get_plot hs hfirst]
      split
      · rename_i hplace
        obtain ⟨rfl, rfl⟩ := Prod.mk.inj hplace.2
        rcases hfirst with hbit | hbit
        · obtain rfl : bit = 0 := hbit
          exact bitXor_zero _
        · obtain rfl : bit = 1 := hbit
          exact absurd h hnew
      · exact bitXor_zero _
    rw [List.foldl_cons, ih (twoValued_plot hs hfirst) hrest htail, hit_plot hs hfirst]
    grind

end

/-! ## Drawing a sprite -/

namespace Placement

variable (s : Placement) (g : Grid)

theorem bits_cells : ∀ cell ∈ s.cells, cell.2.2 = 0 ∨ cell.2.2 = 1 := by
  intro cell hcell
  obtain ⟨row, down, right, -, -, rfl⟩ := mem_spriteCells.1 hcell
  simp only [spriteBit_eq]
  split
  · exact .inr rfl
  · exact .inl rfl

theorem sameSize_blit : (blit g s.cells).1.SameSize g := sameSize_foldl_plot _ _

section
variable {σ : Type} [Screen σ] [Plane σ] {screen : σ}

/-- Drawing adds the bits of a sprite to the pixels that the screen covers. -/
theorem get_blit (hscreen : TwoValued screen) (p q : Int) :
    Screen.get (blit screen s.cells).1 p q =
      bitXor (Screen.get screen p q)
        (if Plane.covers screen p q ∧ s.Lit p q then 1 else 0) := by
  have h := get_foldl_plot (s := (screen, false)) hscreen s.bits_cells s.nodup_cells p q
  simp only [mem_cells_iff] at h
  exact h

/-- It collides if a set bit falls on a lit pixel. -/
theorem hit_blit_iff (hscreen : TwoValued screen) :
    (blit screen s.cells).2 = true ↔ ∃ p q, s.Lit p q ∧ Screen.get screen p q = 1 := by
  have h := hit_foldl_plot (s := (screen, false)) hscreen s.bits_cells s.nodup_cells
  simp only [mem_cells_iff, Bool.false_eq_true, false_or] at h
  exact h

end

/-- On a grid, drawing flips the pixels under the set bits. -/
theorem lit_blit {p q : Int} (hin : g.InBounds p q) :
    (blit g s.cells).1.lit p q = (g.lit p q ^^ decide (s.Lit p q)) := by
  have h := s.get_blit g.twoValued p q
  have hcovers : Plane.covers g p q = true := decide_eq_true hin
  have hget (g : Grid) : Screen.get g p q = if g.lit p q then 1 else 0 := rfl
  rw [hget, hget, hcovers] at h
  by_cases hs : s.Lit p q
  · cases hold : g.lit p q <;> cases hnew : (blit g s.cells).1.lit p q <;> simp_all [bitXor]
  · cases hold : g.lit p q <;> cases hnew : (blit g s.cells).1.lit p q <;> simp_all [bitXor]

theorem hit_blit : (blit g s.cells).2 = true ↔ ∃ p q, s.Lit p q ∧ g.lit p q = true := by
  rw [s.hit_blit_iff g.twoValued]
  simp only [Grid.get_eq_one_iff]

/-- A sprite that is drawn again is gone. -/
theorem blit_blit : (blit (blit g s.cells).1 s.cells).1 = g := by
  have hsize := s.sameSize_blit g
  refine Grid.ext_lit ((s.sameSize_blit _).trans hsize) fun p q hin => ?_
  rw [s.lit_blit _ ((hsize.inBounds_iff p q).2 hin), s.lit_blit g hin, Bool.xor_assoc,
    Bool.xor_self, Bool.xor_false]

/-- The second time it collides with itself, wherever it did not put out a
pixel the first time. -/
theorem hit_blit_blit :
    (blit (blit g s.cells).1 s.cells).2 = true ↔
      ∃ p q, g.InBounds p q ∧ s.Lit p q ∧ g.lit p q = false := by
  rw [hit_blit]
  constructor
  · rintro ⟨p, q, hs, hlit⟩
    have hin := ((s.sameSize_blit g).inBounds_iff p q).1 (Grid.inBounds_of_lit hlit)
    rw [s.lit_blit g hin, decide_eq_true hs] at hlit
    exact ⟨p, q, hin, hs, by simpa using hlit⟩
  · rintro ⟨p, q, hin, hs, hlit⟩
    refine ⟨p, q, hs, ?_⟩
    rw [s.lit_blit g hin, decide_eq_true hs, hlit]
    rfl

end Placement

end Chip8
