-- The two ways to show a grid: an image with a square for each pixel, and a text
-- with a symbol for each pixel. Both show every pixel of the grid at its place.
import Chip8.Proofs.Canvas
import Chip8.Proofs.Room
import Chip8.Request.Values
namespace Chip8

/-! ## Squares -/

namespace Image

section
variable {α : Type} {n : Nat}

theorem getElem?_stretch (hn : 0 < n) (l : List α) (k : Nat) :
    (stretch n l)[k]? = l[k / n]? := by
  induction l generalizing k with
  | nil => rfl
  | cons a rest ih =>
    unfold stretch at ih ⊢
    rw [List.flatMap_cons, List.getElem?_append, List.length_replicate]
    by_cases hk : k < n
    · rw [if_pos hk, List.getElem?_replicate, if_pos hk, Nat.div_eq_of_lt hk]
      rfl
    · have hplace : k / n = (k - n) / n + 1 := Nat.div_eq_sub_div hn (by omega)
      rw [if_neg hk, ih, hplace, List.getElem?_cons_succ]

end

theorem side_pos (scale : Int) : 0 < side scale := by
  unfold side
  omega

theorem pixel?_drawn {g : Grid} {scale : Int} {row column : Nat}
    (hrow : row < g.height * side scale) (hcolumn : column < g.width * side scale) (s : Shades) :
    (drawn g scale s).pixel? row column =
      some (if g.lit (column / side scale : Nat) (row / side scale : Nat) then s.lit
        else s.unlit) := by
  have hn := side_pos scale
  have hy : row / side scale < g.height := Nat.div_lt_of_lt_mul (by rwa [Nat.mul_comm])
  have hx : column / side scale < g.width := Nat.div_lt_of_lt_mul (by rwa [Nat.mul_comm])
  simp [pixel?, drawn, getElem?_stretch hn, Grid.rows, Grid.row, hx, hy]

end Image

/-! ## Colours -/

/-- How many components the two colours have once they are matched. -/
def Scheme.components (s : Scheme) : Nat :=
  if s.lit.length = 1 then s.unlit.length else s.lit.length

/-- Colours that can be shown: their components are bytes, and they have equally many of
them, or one of the colours has one. -/
structure Scheme.Proper (s : Scheme) : Prop where
  bytes : ∀ v ∈ s.lit ++ s.unlit, 0 ≤ v ∧ v ≤ 0xFF
  sizes : s.lit.length = s.unlit.length ∨ s.lit.length = 1 ∨ s.unlit.length = 1

/-- A colour as a pixel shows it: component by component, or its only component in
place of all of them. -/
structure Color.Fills (color : Color) (size : Nat) (pixel : List Nat) : Prop where
  length : pixel.length = size
  component : ∀ k < size, pixel[k]?.map Int.ofNat = color[if color.length = 1 then 0 else k]?

namespace Image

theorem badComponent?_eq_none_iff {c : Color} :
    badComponent? c = none ↔ ∀ v ∈ c, 0 ≤ v ∧ v ≤ 0xFF := by
  unfold badComponent?
  rw [List.find?_eq_none]
  simp

theorem commonSize?_eq_some {s : Scheme}
    (h : s.lit.length = s.unlit.length ∨ s.lit.length = 1 ∨ s.unlit.length = 1) :
    commonSize? s.lit.length s.unlit.length = some s.components := by
  unfold commonSize? Scheme.components
  split
  · rename_i heq
    simp [heq]
  · split
    · rfl
    · simp_all

theorem fills_spread {color : Color} {size : Nat}
    (hsize : color.length = 1 ∨ color.length = size)
    (hbytes : ∀ v ∈ color, 0 ≤ v ∧ v ≤ 0xFF) : Color.Fills color size (spread size color) := by
  by_cases hone : color.length = 1
  · obtain ⟨v, rfl⟩ := List.length_eq_one_iff.1 hone
    obtain ⟨hv, -⟩ := hbytes v (List.mem_singleton_self v)
    refine ⟨List.length_replicate, ?_⟩
    intro k hk
    simp [spread, hk]
    omega
  · have hspread : spread size color = color.map Int.toNat := by
      unfold spread
      split
      · simp at hone
      · rfl
    refine ⟨by rw [hspread, List.length_map]; exact hsize.resolve_left hone, ?_⟩
    intro k hk
    rw [hspread, if_neg hone, List.getElem?_map]
    cases hv : color[k]? with
    | none => rfl
    | some v =>
      have := hbytes v (List.mem_of_getElem? hv)
      simp
      omega

variable {g : Grid} {s : Scheme}

theorem shades_of_proper (h : s.Proper) :
    shades g s =
      .ok ⟨s.components, spread s.components s.lit, spread s.components s.unlit⟩ := by
  obtain ⟨hlit, hunlit⟩ := List.forall_mem_append.1 h.bytes
  unfold shades
  rw [badComponent?_eq_none_iff.2 hlit, badComponent?_eq_none_iff.2 hunlit]
  simp only [commonSize?_eq_some h.sizes]

theorem exists_shades_error (h : ¬ s.Proper) : ∃ r, shades g s = .error r := by
  unfold shades
  split
  · exact ⟨_, rfl⟩
  · exact ⟨_, rfl⟩
  · rename_i hlit hunlit
    split
    · exact ⟨_, rfl⟩
    · rename_i size hsize
      refine absurd ⟨List.forall_mem_append.2 ⟨badComponent?_eq_none_iff.1 hlit,
        badComponent?_eq_none_iff.1 hunlit⟩, ?_⟩ h
      by_contra hsizes
      simp_all [commonSize?]

theorem fills_of_proper {color : Color} (h : s.Proper) (hcolor : color = s.lit ∨ color = s.unlit) :
    Color.Fills color s.components (spread s.components color) := by
  apply fills_spread
  · have := h.sizes
    unfold Scheme.components
    rcases hcolor with rfl | rfl <;> split <;> omega
  · intro v hv
    apply h.bytes v
    rcases hcolor with rfl | rfl
    · exact List.mem_append_left _ hv
    · exact List.mem_append_right _ hv

end Image

/-! ## Texts -/

theorem getElem?_intercalate {α : Type} {sep : α} {lines : List (List α)} {width : Nat}
    (hwidth : ∀ line ∈ lines, line.length = width) {x : Nat} (hx : x < width) (y : Nat) :
    (List.intercalate [sep] lines)[y * (width + 1) + x]? = lines[y]?.bind (·[x]?) := by
  induction lines generalizing y with
  | nil => rfl
  | cons line rest ih =>
    obtain ⟨hline, hrest⟩ := List.forall_mem_cons.1 hwidth
    cases rest with
    | nil =>
      rw [List.intercalate_singleton]
      cases y with
      | zero => simp
      | succ y =>
        have hfar : line.length ≤ (y + 1) * (width + 1) + x := by
          rw [Nat.add_mul]
          omega
        simp [List.getElem?_eq_none hfar]
    | cons next rest =>
      rw [List.intercalate_cons_cons, List.append_assoc]
      cases y with
      | zero =>
        rw [Nat.zero_mul, Nat.zero_add, List.getElem?_append_left (by omega)]
        rfl
      | succ y =>
        have hplace : (y + 1) * (width + 1) + x - line.length = y * (width + 1) + x + 1 := by
          rw [Nat.add_mul]
          omega
        rw [List.getElem?_append_right (by rw [Nat.add_mul]; omega), hplace,
          List.singleton_append, List.getElem?_cons_succ, ih hrest]
        rfl

namespace Grid

/-- The symbols of the grid, line by line. -/
def symbols {α : Type} (g : Grid) (lit unlit : α) : List (List α) :=
  g.rows.map fun row => row.map fun pixel => if pixel then lit else unlit

section
variable {α : Type} (g : Grid) (lit unlit : α)

theorem length_symbols : (g.symbols lit unlit).length = g.height := by
  simp [symbols, rows]

theorem length_of_mem_symbols {line : List α} (h : line ∈ g.symbols lit unlit) :
    line.length = g.width := by
  simp only [symbols, rows, List.mem_map] at h
  obtain ⟨_, ⟨y, -, rfl⟩, rfl⟩ := h
  simp [row]

theorem getElem?_symbols {x y : Nat} (hx : x < g.width) (hy : y < g.height) :
    (g.symbols lit unlit)[y]?.bind (·[x]?) = some (if g.lit x y then lit else unlit) := by
  simp [symbols, rows, row, hx, hy]

end

theorem text_eq (g : Grid) (lit unlit : String) :
    g.text lit unlit = "\n".intercalate ((g.symbols lit unlit).map String.join) := by
  unfold symbols
  rw [List.map_map]
  rfl

variable {g g' : Grid} {lit unlit : Char}

theorem toList_line (lit unlit : Char) (row : List Bool) :
    (String.join (row.map fun pixel =>
      if pixel then String.singleton lit else String.singleton unlit)).toList =
        row.map fun pixel => if pixel then lit else unlit := by
  rw [String.toList_join]
  induction row with
  | nil => rfl
  | cons pixel rest ih => cases pixel <;> simp [ih]

theorem toList_text (g : Grid) (lit unlit : Char) :
    (g.text (String.singleton lit) (String.singleton unlit)).toList =
      List.intercalate ['\n'] (g.symbols lit unlit) := by
  unfold text symbols
  rw [String.toList_intercalate, List.map_map]
  congr 1
  apply List.map_congr_left
  intro row _
  exact toList_line lit unlit row

/-- The symbol of a pixel stands at its place in the text. -/
theorem getElem?_text (lit unlit : Char) {x y : Nat} (hx : x < g.width) (hy : y < g.height) :
    (g.text (String.singleton lit) (String.singleton unlit)).toList[y * (g.width + 1) + x]? =
      some (if g.lit x y then lit else unlit) := by
  have hwidth : ∀ line ∈ g.symbols lit unlit, line.length = g.width :=
    fun line hline => g.length_of_mem_symbols lit unlit hline
  rw [toList_text, getElem?_intercalate hwidth hx, getElem?_symbols _ _ _ hx hy]

/-- Two symbols that differ tell two grids of one size apart. -/
theorem eq_of_text_eq (hsize : g'.SameSize g) (hne : lit ≠ unlit)
    (h : g'.text (String.singleton lit) (String.singleton unlit) =
      g.text (String.singleton lit) (String.singleton unlit)) : g' = g := by
  apply ext_lit hsize
  rintro p q ⟨hp, hpw, hq, hqh⟩
  obtain ⟨x, rfl⟩ := Int.eq_ofNat_of_zero_le hp
  obtain ⟨y, rfl⟩ := Int.eq_ofNat_of_zero_le hq
  have hx : x < g.width := by omega
  have hy : y < g.height := by omega
  have hsymbol := getElem?_text lit unlit hx hy
  have hsymbol' := getElem?_text lit unlit (hsize.1 ▸ hx) (hsize.2 ▸ hy)
  rw [h, hsize.1, hsymbol] at hsymbol'
  cases hlit : g.lit x y <;> cases hlit' : g'.lit x y <;> simp_all

end Grid

/-! ## Both -/

namespace Image

/-- All pixels of a square have a colour. -/
def Square (image : Image) (side x y : Nat) (color : Color) (size : Nat) : Prop :=
  ∀ i < side, ∀ j < side, ∃ pixel,
    image.pixel? (y * side + j) (x * side + i) = some pixel ∧ Color.Fills color size pixel

/-- An image shows a grid in squares: it has the size of all of them together, and each of
its pixels has the colour of the pixel of the grid whose square it lies in. -/
structure Depicts (image : Image) (g : Grid) (side : Nat) (colors : Scheme) : Prop where
  height : image.height = g.height * side
  width : image.width = g.width * side
  shape : image.shape = List.replicate (g.height * side) (g.width * side)
  pixel : ∀ row < g.height * side, ∀ column < g.width * side, ∃ pixel,
    image.pixel? row column = some pixel ∧
      Color.Fills (if g.lit (column / side : Nat) (row / side : Nat) then colors.lit
        else colors.unlit) colors.components pixel

variable {p : Platform} {image : Image} {g : Grid} {scale : Int} {colors : Scheme}

theorem Depicts.square {side : Nat} (h : image.Depicts g side colors) {x y : Nat}
    (hx : x < g.width) (hy : y < g.height) :
    image.Square side x y (if g.lit x y then colors.lit else colors.unlit) colors.components := by
  intro i hi j hj
  have hplace {k count offset : Nat} (hk : k < count) (ho : offset < side) :
      k * side + offset < count * side := by
    calc k * side + offset < (k + 1) * side := by rw [Nat.succ_mul]; omega
      _ ≤ count * side := Nat.mul_le_mul_right _ hk
  have hback {k offset : Nat} (ho : offset < side) : (k * side + offset) / side = k := by
    rw [Nat.mul_comm, Nat.mul_add_div (by omega), Nat.div_eq_of_lt ho, Nat.add_zero]
  obtain ⟨pixel, hpixel, hfills⟩ := h.pixel _ (hplace hy hj) _ (hplace hx hi)
  rw [hback hi, hback hj] at hfills
  exact ⟨pixel, hpixel, hfills⟩

theorem depicts_drawn (h : colors.Proper) :
    (drawn g scale ⟨colors.components, spread colors.components colors.lit,
      spread colors.components colors.unlit⟩).Depicts g (side scale) colors := by
  refine ⟨rfl, rfl, shape_drawn g scale _, ?_⟩
  intro row hrow column hcolumn
  refine ⟨_, pixel?_drawn hrow hcolumn _, ?_⟩
  split
  · exact fills_of_proper h (.inl rfl)
  · exact fills_of_proper h (.inr rfl)

theorem inRoom_of_proper (h : colors.Proper) :
    inRoom p g scale colors =
      (Room.checkScaled p g.height g.width colors.components scale).map fun _ =>
        drawn g scale ⟨colors.components, spread colors.components colors.lit,
          spread colors.components colors.unlit⟩ := by
  unfold inRoom shadesInRoom
  rw [shades_of_proper h]
  cases hroom : Room.checkScaled p g.height g.width colors.components scale with
  | error r => simp [hroom, bind, Except.bind, Except.map]
  | ok u => simp [hroom, bind, Except.bind, Except.map, pure, Except.pure]

theorem exists_inRoom_error (h : ¬ colors.Proper) : ∃ r, inRoom p g scale colors = .error r := by
  obtain ⟨r, hr⟩ := exists_shades_error (g := g) h
  refine ⟨r, ?_⟩
  unfold inRoom shadesInRoom
  rw [hr]
  rfl

/-- An image is refused if its colours cannot be shown or if there is no room for it. -/
theorem exists_inRoom_error_iff :
    (∃ r, inRoom p g scale colors = .error r) ↔ ¬ colors.Proper ∨
      ¬ (scale < 2 ^ 63 ∧
        p.HasRoom [g.height * side scale, g.width * side scale, colors.components]) := by
  by_cases h : colors.Proper
  · rw [inRoom_of_proper h, ← Room.checkScaled_eq_ok_iff]
    cases Room.checkScaled p g.height g.width colors.components scale <;> simp [h, Except.map]
  · exact iff_of_true (exists_inRoom_error h) (.inl h)

theorem depicts_of_inRoom (h : inRoom p g scale colors = .ok image) :
    image.Depicts g (side scale) colors := by
  by_cases hproper : colors.Proper
  · rw [inRoom_of_proper hproper] at h
    obtain ⟨-, -, rfl⟩ := map_eq_ok h
    exact depicts_drawn hproper
  · obtain ⟨r, hr⟩ : ∃ r, inRoom p g scale colors = .error r := exists_inRoom_error hproper
    rw [hr] at h
    cases h

end Image

end Chip8
