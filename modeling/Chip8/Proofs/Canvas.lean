-- What a picture window shows: the pixels as they were when it was shown last,
-- as far as it has room for them.
import Chip8.Proofs.Calls
import Chip8.Proofs.Room
import Chip8.Proofs.Sprite
import Chip8.Screen.Any
namespace Chip8

/-! ## Pictures in a window -/

namespace Image

def shape (image : Image) : List Nat := image.rows.map List.length

theorem length_stretch {α : Type} (n : Nat) (l : List α) :
    (stretch n l).length = l.length * n := by
  induction l with
  | nil => simp [stretch]
  | cons a rest ih =>
    unfold stretch at ih ⊢
    rw [List.flatMap_cons, List.length_append, ih, List.length_replicate, List.length_cons,
      Nat.add_mul, Nat.one_mul, Nat.add_comm]

/-- The shape of an image of a grid depends on nothing but the sizes. -/
theorem shape_drawn (g : Grid) (scale : Int) (s : Shades) :
    (drawn g scale s).shape = List.replicate (g.height * side scale) (g.width * side scale) := by
  refine List.eq_replicate_iff.2 ⟨?_, fun length hlength => ?_⟩
  · simp [shape, drawn, length_stretch, Grid.rows]
  · simp only [shape, drawn, stretch, Grid.rows, List.mem_map, List.mem_flatMap] at hlength
    obtain ⟨_, ⟨_, ⟨_, ⟨y, -, rfl⟩, rfl⟩, hrow⟩, rfl⟩ := hlength
    obtain rfl := List.eq_of_mem_replicate hrow
    rw [← stretch, length_stretch]
    simp [Grid.row]

section
variable {α : Type}

/-- A list laid on the front of another one. -/
theorem getElem?_laid (upper lower : List α) (k : Nat) :
    ((upper ++ lower.drop upper.length).take lower.length)[k]? =
      lower[k]?.map fun b => upper[k]?.getD b := by
  rw [List.getElem?_take, List.getElem?_append, List.getElem?_drop]
  by_cases hlower : k < lower.length
  · rw [if_pos hlower, List.getElem?_eq_getElem hlower]
    by_cases hupper : k < upper.length
    · simp [hupper]
    · have hplace : upper.length + (k - upper.length) = k := by omega
      rw [if_neg hupper, hplace, List.getElem?_eq_getElem hlower]
      simp [hupper]
  · have hnone : lower[k]? = none := List.getElem?_eq_none (by omega)
    rw [if_neg hlower, hnone]
    rfl

theorem getElem?_zipWith_append_drop {β : Type} (f : β → α → α) (upper : List β)
    (lower : List α) (k : Nat) :
    (List.zipWith f upper lower ++ lower.drop upper.length)[k]? =
      lower[k]?.map fun b => (upper[k]?.map fun a => f a b).getD b := by
  induction upper generalizing lower k with
  | nil => simp
  | cons a upper ih =>
    cases lower with
    | nil => simp
    | cons b lower =>
      cases k with
      | zero => simp
      | succ k => simpa using ih lower k

end

variable (image below : Image)

theorem pixel?_laidOn (row column : Nat) :
    (image.laidOn below).pixel? row column =
      (below.pixel? row column).map fun colour => (image.pixel? row column).getD colour := by
  unfold pixel? laidOn
  simp only [getElem?_zipWith_append_drop]
  cases hlower : below.rows[row]? with
  | none => rfl
  | some lower =>
    cases hupper : image.rows[row]? with
    | none => simp
    | some upper => simp [getElem?_laid]

theorem getElem?_shape (k : Nat) : image.shape[k]? = image.rows[k]?.map List.length :=
  List.getElem?_map

/-- What sticks out is cut off, so a window keeps its shape. -/
theorem shape_laidOn : (image.laidOn below).shape = below.shape := by
  refine List.ext_getElem? fun k => ?_
  rw [getElem?_shape, getElem?_shape]
  unfold laidOn
  rw [getElem?_zipWith_append_drop]
  cases hlower : below.rows[k]? with
  | none => rfl
  | some lower =>
    cases hupper : image.rows[k]? with
    | none => rfl
    | some upper => simp; omega

/-- An image that fits exactly covers what is below it. -/
theorem rows_laidOn (h : image.shape = below.shape) : (image.laidOn below).rows = image.rows := by
  refine List.ext_getElem? fun k => ?_
  have hk := congrArg (·[k]?) h
  simp only [getElem?_shape] at hk
  unfold laidOn
  rw [getElem?_zipWith_append_drop]
  cases hlower : below.rows[k]? with
  | none =>
    rw [hlower, Option.map_none, Option.map_eq_none_iff] at hk
    rw [hk]
    rfl
  | some lower =>
    rw [hlower, Option.map_some, Option.map_eq_some_iff] at hk
    obtain ⟨upper, hupper, hlength⟩ := hk
    rw [hupper]
    simp [← hlength]

end Image

/-! ## The canvas -/

namespace Canvas

/-- The window shows the image of the pixels: nothing else is seen where it has
room, and nothing else at all if it has the shape of the image. -/
structure Shows (c : Canvas) (image : Image) : Prop where
  inRoom : Image.inRoom c.platform c.grid c.scale c.scheme = .ok image
  pixel : ∀ row column seen colour, c.window.pixel? row column = some seen →
    image.pixel? row column = some colour → seen = colour
  rows : c.window.shape = image.shape → c.window.rows = image.rows

/-- A canvas that was shown shows its pixels. -/
theorem shows_refresh (c : Canvas) : c.refresh.Shows c.image := by
  refine ⟨c.inRoom_eq_image, ?_, fun hshape => ?_⟩
  · intro row column seen colour hseen hcolour
    simp only [refresh, Image.pixel?_laidOn, hcolour, Option.map_eq_some_iff] at hseen
    obtain ⟨_, -, rfl⟩ := hseen
    rfl
  · simp only [refresh, Image.shape_laidOn] at hshape
    exact Image.rows_laidOn _ _ hshape.symm

/-- Canvases of one make: their pixels may differ, and the picture in their
windows. -/
structure Akin (c c' : Canvas) : Prop where
  platform : c'.platform = c.platform
  scale : c'.scale = c.scale
  scheme : c'.scheme = c.scheme
  size : c'.grid.SameSize c.grid
  shape : c'.window.shape = c.window.shape

theorem Akin.refl (c : Canvas) : c.Akin c := ⟨rfl, rfl, rfl, ⟨rfl, rfl⟩, rfl⟩

variable {c c' c'' : Canvas}

theorem Akin.trans (h : c.Akin c') (h' : c'.Akin c'') : c.Akin c'' :=
  ⟨h'.platform.trans h.platform, h'.scale.trans h.scale, h'.scheme.trans h.scheme,
    h'.size.trans h.size, h'.shape.trans h.shape⟩

theorem akin_refresh (c : Canvas) : c.Akin c.refresh :=
  ⟨rfl, rfl, rfl, ⟨rfl, rfl⟩, Image.shape_laidOn _ _⟩

theorem akin_answer (c : Canvas) (call : ScreenCall) : c.Akin (Screen.answer c call).2 := by
  cases call with
  | set x y bit => exact ⟨rfl, rfl, rfl, Grid.sameSize_set c.grid x y bit, rfl⟩
  | get x y => exact .refl c
  | clear => exact ⟨rfl, rfl, rfl, ⟨rfl, rfl⟩, rfl⟩
  | refresh => exact akin_refresh c

theorem akin_after (c : Canvas) (calls : List ScreenCall) :
    c.Akin (after Screen.answer c calls) := by
  induction calls generalizing c with
  | nil => exact .refl c
  | cons call rest ih => exact (akin_answer c call).trans (ih _)

/-! ## Windows that fit -/

/-- A window is as large as asked, unless it would be larger than any. -/
theorem windowSize_scaled {p : Platform} {scale : Int} (hlow : 1 ≤ scale)
    (hhigh : 64 * scale ≤ p.longestSide) :
    windowSize p (screenHeight * scale) (screenWidth * scale) =
      .ok ((32 * scale).toNat, (64 * scale).toNat) := by
  have hlongest := p.longestSide_lt
  have hheight : (screenHeight * scale : Int).bmod 0x100000000 = 32 * scale :=
    Int.bmod_eq_of_le (by unfold screenHeight; omega) (by unfold screenHeight; omega)
  have hwidth : (screenWidth * scale : Int).bmod 0x100000000 = 64 * scale :=
    Int.bmod_eq_of_le (by unfold screenWidth; omega) (by unfold screenWidth; omega)
  have hfits : Text.fitsWord (screenWidth * scale : Int) = true := by
    unfold Text.fitsWord screenWidth
    rw [Bool.and_eq_true, decide_eq_true_eq, decide_eq_true_eq]
    omega
  unfold windowSize
  rw [hfits, hheight, hwidth]
  simp only [Bool.not_true, Bool.false_eq_true, if_false]
  rw [if_neg (by omega), if_neg (by omega), if_neg (by omega),
    Int.max_eq_left (by omega), Int.max_eq_left (by omega)]

/-- A new canvas has the size and the window that were asked for. -/
theorem ofScale_eq_ok {p : Platform} {scale : Int} {name : String}
    (h : AnyScreen.ofScale p scale name = .ok (.canvas c)) (hlow : 1 ≤ scale)
    (hhigh : 64 * scale ≤ p.longestSide) :
    c.platform = p ∧ c.grid = .standard ∧ c.scale = scale ∧
      c.window = .dark (32 * scale).toNat (64 * scale).toNat := by
  simp only [AnyScreen.ofScale, bind_eq_ok_iff] at h
  obtain ⟨size, hsize, scheme, -, hscreen⟩ := h
  cases (windowSize_scaled hlow hhigh).symm.trans hsize
  simp only [AnyScreen.inWindow, inWindow] at hscreen
  split at hscreen <;> cases hscreen
  rename_i hcanvas
  split at hcanvas <;> cases hcanvas
  exact ⟨rfl, rfl, rfl, rfl⟩

/-- Colours that have a name have shades of red, green and blue. -/
theorem exists_shades {scheme : Scheme} {name : String} (h : Scheme.ofName name = .ok scheme)
    (g : Grid) : ∃ s, Image.shades g scheme = .ok s ∧ s.components = 3 := by
  unfold Scheme.ofName at h
  split at h <;> cases h <;> exact ⟨_, rfl, rfl⟩

/-- In the colours of a name, a screen can be shown if there is room for its image. -/
theorem exists_ofScale {p : Platform} {scale : Int} {name : String} {scheme : Scheme}
    (hname : Scheme.ofName name = .ok scheme) (hlow : 1 ≤ scale)
    (hhigh : 64 * scale ≤ p.longestSide)
    (hroom : p.HasRoom [32 * Image.side scale, 64 * Image.side scale, 3]) :
    ∃ c : Canvas, AnyScreen.ofScale p scale name = .ok (.canvas c) := by
  obtain ⟨s, hs, hthree⟩ := exists_shades hname .standard
  have hword : scale < 2 ^ 63 := by
    have := p.longestSide_lt
    omega
  have hready : Image.shadesInRoom p .standard scale scheme = .ok s := by
    unfold Image.shadesInRoom
    rw [hs]
    refine bind_eq_ok_iff.2 ⟨s, rfl, bind_eq_ok_iff.2 ⟨(), ?_, rfl⟩⟩
    rw [hthree]
    exact Room.checkScaled_eq_ok_iff.2 ⟨hword, hroom⟩
  let size : Nat × Nat := ((32 * scale).toNat, (64 * scale).toNat)
  let c : Canvas := ⟨p, .standard, scale, scheme, s, .dark size.1 size.2, hready⟩
  have hcanvas : inWindow p size scale scheme = .ok c := by
    unfold inWindow
    split
    all_goals cases hready.symm.trans ‹_›
    rfl
  have hscreen : AnyScreen.inWindow p size scale scheme = .canvas c := by
    unfold AnyScreen.inWindow
    rw [hcanvas]
  exact ⟨c, bind_eq_ok_iff.2 ⟨size, windowSize_scaled hlow hhigh,
    bind_eq_ok_iff.2 ⟨scheme, hname, congrArg _ hscreen⟩⟩⟩

/-- Such a window has room for exactly the images of its screen. -/
theorem shape_ofScale {p : Platform} {scale : Int} {name : String}
    (h : AnyScreen.ofScale p scale name = .ok (.canvas c)) (hlow : 1 ≤ scale)
    (hhigh : 64 * scale ≤ p.longestSide) (hakin : c.Akin c') :
    c'.window.shape = c'.image.shape := by
  obtain ⟨-, hgrid, hscale, hwindow⟩ := ofScale_eq_ok h hlow hhigh
  have hside : Image.side scale = scale.toNat := congrArg Int.toNat (Int.max_eq_left hlow)
  have hrows : (32 * scale).toNat = 32 * scale.toNat := by omega
  have hcolumns : (64 * scale).toNat = 64 * scale.toNat := by omega
  rw [hakin.shape, hwindow]
  unfold image
  rw [Image.shape_drawn, hakin.size.1, hakin.size.2, hakin.scale, hgrid, hscale, hside]
  unfold Image.shape Image.dark
  simp only [hrows, hcolumns, List.map_replicate, List.length_replicate]
  rfl

end Canvas

end Chip8
