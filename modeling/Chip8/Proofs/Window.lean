-- What a text window shows after the calls that a panel made to it. Pixels are
-- written one by one as they change, and a clear blanks everything at once; all
-- the same the window always shows the pixels inside an unbroken border.
import Chip8.Picture.Image
import Chip8.Proofs.Calls
import Chip8.Proofs.Sprite
import Chip8.Screen.Panel
namespace Chip8

/-! ## Windows -/

/-- What a text window shows, by row and column. -/
structure TextWindow where
  symbol : Int → Int → Char

namespace TextWindow

/-- A place of the window. -/
def Inside (row column : Int) : Prop :=
  0 ≤ row ∧ row < panelRows ∧ 0 ≤ column ∧ column < panelColumns

/-- A place at the edge of the window. -/
def OnBorder (row column : Int) : Prop :=
  Inside row column ∧
    (row = 0 ∨ row = panelRows - 1 ∨ column = 0 ∨ column = panelColumns - 1)

instance (row column : Int) : Decidable (Inside row column) :=
  inferInstanceAs (Decidable (_ ∧ _))

instance (row column : Int) : Decidable (OnBorder row column) :=
  inferInstanceAs (Decidable (_ ∧ _))

/-- The symbol of the border at a place. -/
def borderSymbol (row column : Int) : Char :=
  if row = 0 then
    if column = 0 then '┌' else if column = panelColumns - 1 then '┐' else '─'
  else if row = panelRows - 1 then
    if column = 0 then '└' else if column = panelColumns - 1 then '┘' else '─'
  else '│'

/-- A window in which nothing was written. -/
def blank : TextWindow := ⟨fun _ _ => ' '⟩

/-- The window after a call. Of a text, what leaves the window is lost. -/
def apply (w : TextWindow) : WindowCall → TextWindow
  | .box => ⟨fun r c => if OnBorder r c then borderSymbol r c else w.symbol r c⟩
  | .erase => blank
  | .refresh => w
  | .write row column text =>
    ⟨fun r c =>
      if Inside r c ∧ r = row ∧ column ≤ c then
        (text.toList[(c - column).toNat]?).getD (w.symbol r c)
      else w.symbol r c⟩

/-- A blank window after some calls. -/
def replay (calls : List WindowCall) : TextWindow := calls.foldl apply blank

theorem replay_concat (calls : List WindowCall) (call : WindowCall) :
    replay (calls ++ [call]) = (replay calls).apply call := by
  simp [replay]

/-- The symbols between the left and the right border. -/
def line (w : TextWindow) (row : Int) : String :=
  String.ofList ((List.range (2 * screenWidth)).map fun (k : Nat) => w.symbol row (k + 1))

/-- The lines between the upper and the lower border. -/
def interior (w : TextWindow) : String :=
  String.intercalate "\n" ((List.range screenHeight).map fun (y : Nat) => w.line (y + 1))

end TextWindow

open TextWindow (Inside OnBorder borderSymbol)

/-- Whether a call writes a text. -/
def WindowCall.isWrite : WindowCall → Bool
  | .write .. => true
  | _ => false

/-- One of the two symbols of a pixel. -/
def pixelSymbol (lit : Bool) : Char := if lit then '█' else ' '

theorem toList_cellText (bit : Int) :
    (Panel.cellText bit).toList = [pixelSymbol (bit != 0), pixelSymbol (bit != 0)] := by
  unfold Panel.cellText pixelSymbol
  by_cases h : bit = 0 <;> simp [h]

namespace Panel

/-- What the window of a panel shows after all its calls. -/
def window (p : Panel) : TextWindow := .replay p.calls.reverse

theorem window_cons (grid : Grid) (call : WindowCall) (calls : List WindowCall) :
    window ⟨grid, call :: calls⟩ = (window ⟨grid, calls⟩).apply call := by
  unfold window
  rw [List.reverse_cons, TextWindow.replay_concat]

/-- How many texts a panel has written. -/
def writeCount (p : Panel) : Nat := p.calls.countP WindowCall.isWrite

/-! ## The mirror -/

/-- The window shows the pixels of the panel inside a border, and no text was
ever written elsewhere. -/
structure Mirrored (p : Panel) : Prop where
  width : p.grid.width = screenWidth
  height : p.grid.height = screenHeight
  pixel : ∀ x y, p.grid.InBounds x y →
    p.window.symbol (y + 1) (2 * x + 1) = pixelSymbol (p.grid.lit x y) ∧
      p.window.symbol (y + 1) (2 * x + 2) = pixelSymbol (p.grid.lit x y)
  border : ∀ row column, OnBorder row column →
    p.window.symbol row column = borderSymbol row column
  writes : ∀ row column text, .write row column text ∈ p.calls →
    ∀ k < text.length, Inside row (column + k) ∧ ¬ OnBorder row (column + k)

variable {p : Panel}

/-- The two symbols of a pixel are inside the border. -/
theorem inside_of_inBounds (hwidth : p.grid.width = screenWidth)
    (hheight : p.grid.height = screenHeight) {x y : Int} (h : p.grid.InBounds x y) {k : Int}
    (hk : k = 1 ∨ k = 2) : Inside (y + 1) (2 * x + k) ∧ ¬ OnBorder (y + 1) (2 * x + k) := by
  obtain ⟨hx, hxw, hy, hyh⟩ := h
  rw [hwidth] at hxw
  rw [hheight] at hyh
  simp only [OnBorder, Inside, panelRows, panelColumns, screenWidth, screenHeight] at *
  omega

theorem mirrored_blank : blank.Mirrored := by
  have hsymbol (row column : Int) : blank.window.symbol row column =
      if OnBorder row column then borderSymbol row column else ' ' := rfl
  refine ⟨rfl, rfl, ?_, ?_, ?_⟩
  · intro x y h
    have hlit : blank.grid.lit x y = false := Grid.lit_blank _ _ _ _
    rw [hlit, hsymbol, hsymbol, if_neg (inside_of_inBounds rfl rfl h (.inl rfl)).2,
      if_neg (inside_of_inBounds rfl rfl h (.inr rfl)).2]
    exact ⟨rfl, rfl⟩
  · intro row column h
    rw [hsymbol, if_pos h]
  · intro row column text hmem
    simp [blank] at hmem

/-! ## Calls to the panel -/

/-- A pixel that is set is written anew. -/
def Redraws (p : Panel) (x y bit : Int) : Prop := p.grid.get x y ≠ bit ∧ p.grid.InBounds x y

theorem set_of_redraws {x y bit : Int} (h : p.Redraws x y bit) :
    p.set x y bit =
      ⟨p.grid.set x y bit, .write (y + 1) (2 * x + 1) (cellText bit) :: p.calls⟩ := by
  unfold Redraws at h
  simp only [set, if_pos h]

/-- What is not written anew has not changed. -/
theorem set_of_not_redraws {x y bit : Int} (h : ¬ p.Redraws x y bit) : p.set x y bit = p := by
  have hgrid : p.grid.set x y bit = p.grid := by
    refine Grid.ext_lit (Grid.sameSize_set _ _ _ _) ?_
    intro a b hin
    rw [Grid.lit_set]
    by_cases hplace : p.grid.InBounds a b ∧ a = x ∧ b = y
    · obtain ⟨-, rfl, rfl⟩ := hplace
      have hsame : p.grid.get a b = bit := by
        by_contra hne
        exact h ⟨hne, hin⟩
      rw [if_pos ⟨hin, rfl, rfl⟩, ← hsame]
      unfold Grid.get
      cases p.grid.lit a b <;> rfl
    · rw [if_neg hplace]
  unfold Redraws at h
  simp only [set, if_neg h, hgrid]

/-- A bit that is written anew has changed. -/
theorem grid_set_ne {x y bit : Int} (hbit : bit = 0 ∨ bit = 1) (h : p.Redraws x y bit) :
    p.grid.set x y bit ≠ p.grid := by
  obtain ⟨hne, hin⟩ := h
  intro hsame
  have hlit := Grid.lit_set p.grid x y bit x y
  rw [hsame, if_pos ⟨hin, rfl, rfl⟩] at hlit
  apply hne
  unfold Grid.get
  rw [hlit]
  rcases hbit with rfl | rfl <;> rfl

theorem symbol_redrawn {grid : Grid} {x y bit row column : Int} :
    (window ⟨grid, .write (y + 1) (2 * x + 1) (cellText bit) :: p.calls⟩).symbol row column =
      if Inside row column ∧ row = y + 1 ∧ (column = 2 * x + 1 ∨ column = 2 * x + 2) then
        pixelSymbol (bit != 0)
      else p.window.symbol row column := by
  rw [window_cons]
  show (if Inside row column ∧ row = y + 1 ∧ 2 * x + 1 ≤ column then
    ((cellText bit).toList[(column - (2 * x + 1)).toNat]?).getD (p.window.symbol row column)
    else p.window.symbol row column) = _
  rw [toList_cellText]
  by_cases h1 : column = 2 * x + 1
  · subst h1
    simp
  by_cases h2 : column = 2 * x + 2
  · subst h2
    have hplace : (2 * x + 2 - (2 * x + 1)).toNat = 1 := by omega
    rw [hplace]
    simp
  · by_cases hle : 2 * x + 1 ≤ column
    · have hplace : 2 ≤ (column - (2 * x + 1)).toNat := by omega
      rw [List.getElem?_eq_none hplace]
      simp [h1, h2]
    · simp [h1, h2, hle]

theorem Mirrored.set (h : p.Mirrored) (x y bit : Int) : (p.set x y bit).Mirrored := by
  by_cases hdraw : p.Redraws x y bit
  case neg =>
    rw [set_of_not_redraws hdraw]
    exact h
  rw [set_of_redraws hdraw]
  have hin := hdraw.2
  have hsize := Grid.sameSize_set p.grid x y bit
  refine ⟨hsize.1.trans h.width, hsize.2.trans h.height, ?_, ?_, ?_⟩
  · intro a b hab
    have hab : p.grid.InBounds a b := Grid.inBounds_set.1 hab
    obtain ⟨hfirst, hsecond⟩ := h.pixel a b hab
    rw [symbol_redrawn, symbol_redrawn, Grid.lit_set]
    by_cases hplace : a = x ∧ b = y
    · obtain ⟨rfl, rfl⟩ := hplace
      simp [hin, (inside_of_inBounds h.width h.height hin (.inl rfl)).1,
        (inside_of_inBounds h.width h.height hin (.inr rfl)).1]
    · have hpixel : ¬ (p.grid.InBounds a b ∧ a = x ∧ b = y) := fun hall => hplace hall.2
      have hleft : ¬ (Inside (b + 1) (2 * a + 1) ∧ b + 1 = y + 1 ∧
          (2 * a + 1 = 2 * x + 1 ∨ 2 * a + 1 = 2 * x + 2)) := by omega
      have hright : ¬ (Inside (b + 1) (2 * a + 2) ∧ b + 1 = y + 1 ∧
          (2 * a + 2 = 2 * x + 1 ∨ 2 * a + 2 = 2 * x + 2)) := by omega
      rw [if_neg hpixel, if_neg hleft, if_neg hright]
      exact ⟨hfirst, hsecond⟩
  · intro row column hborder
    rw [symbol_redrawn, if_neg]
    · exact h.border row column hborder
    · rintro ⟨-, rfl, rfl | rfl⟩
      · exact (inside_of_inBounds h.width h.height hin (.inl rfl)).2 hborder
      · exact (inside_of_inBounds h.width h.height hin (.inr rfl)).2 hborder
  · intro row column text hmem
    rcases List.mem_cons.1 hmem with hnew | hold
    · cases hnew
      intro k hk
      have hlength : (cellText bit).length = 2 := by
        rw [← String.length_toList, toList_cellText]
        rfl
      have hplace : 2 * x + 1 + (k : Int) = 2 * x + (k + 1) := by omega
      rw [hplace]
      exact inside_of_inBounds h.width h.height hin (by omega)
    · exact h.writes row column text hold

/-- A clear leaves a blank panel but for the calls before it. -/
theorem window_clear (p : Panel) : p.clear.window = blank.window := by
  unfold clear
  rw [window_cons, window_cons]
  rfl

theorem Mirrored.clear (h : p.Mirrored) : p.clear.Mirrored := by
  have hgrid : p.clear.grid = blank.grid := by
    show Grid.blank p.grid.width p.grid.height = _
    rw [h.width, h.height]
    rfl
  obtain ⟨hwidth, hheight, hpixel, hborder, -⟩ := mirrored_blank
  refine ⟨?_, ?_, ?_, ?_, ?_⟩
  · rw [hgrid, hwidth]
  · rw [hgrid, hheight]
  · rw [hgrid, window_clear]
    exact hpixel
  · rw [window_clear]
    exact hborder
  · intro row column text hmem
    simp [Panel.clear] at hmem
    exact h.writes row column text hmem

theorem Mirrored.refresh (h : p.Mirrored) : p.refresh.Mirrored := by
  have hwindow : p.refresh.window = p.window := by
    unfold Panel.refresh
    rw [window_cons]
    rfl
  obtain ⟨hwidth, hheight, hpixel, hborder, hwrites⟩ := h
  refine ⟨hwidth, hheight, ?_, ?_, ?_⟩
  · rw [hwindow]
    exact hpixel
  · rw [hwindow]
    exact hborder
  · intro row column text hmem
    simp [Panel.refresh] at hmem
    exact hwrites row column text hmem

theorem Mirrored.answer (h : p.Mirrored) (call : ScreenCall) :
    (Screen.answer p call).2.Mirrored := by
  cases call with
  | set x y bit => exact h.set x y bit
  | get x y => exact h
  | clear => exact h.clear
  | refresh => exact h.refresh

theorem Mirrored.after (h : p.Mirrored) (calls : List ScreenCall) :
    (Chip8.after Screen.answer p calls).Mirrored := by
  induction calls generalizing p with
  | nil => exact h
  | cons call rest ih => exact ih (h.answer call)

/-- A panel keeps the pixels that a plain grid would keep. -/
theorem embeds_grid : Embeds Panel.grid where
  get _ _ _ := rfl
  answer p call := by cases call <;> rfl

/-- A bit is written exactly if it changes its pixel. -/
theorem writeCount_set (p : Panel) {x y bit : Int} (hbit : bit = 0 ∨ bit = 1) :
    (p.set x y bit).writeCount =
      p.writeCount + if p.grid.set x y bit = p.grid then 0 else 1 := by
  by_cases h : p.Redraws x y bit
  · rw [set_of_redraws h, if_neg (grid_set_ne hbit h)]
    exact List.countP_cons_of_pos rfl
  · have hgrid : p.grid.set x y bit = p.grid := congrArg grid (set_of_not_redraws h)
    rw [set_of_not_redraws h, if_pos hgrid]
    rfl

end Panel

/-! ## The picture as a text -/

theorem map_range_two_mul {α : Type} (f : Nat → α) (n : Nat) :
    (List.range (2 * n)).map f = (List.range n).flatMap fun k => [f (2 * k), f (2 * k + 1)] := by
  induction n with
  | zero => rfl
  | succ n ih =>
    rw [Nat.mul_succ, List.range_succ, List.range_succ, List.range_succ, List.flatMap_append, ← ih]
    simp

namespace Panel

variable {p : Panel}

theorem Mirrored.line (h : p.Mirrored) {y : Nat} (hy : y < screenHeight) :
    p.window.line (y + 1) =
      String.join ((p.grid.row y).map fun pixel => if pixel then "██" else "  ") := by
  have hsymbols (pixel : Bool) :
      (if pixel then "██" else "  ").toList = [pixelSymbol pixel, pixelSymbol pixel] := by
    cases pixel <;> simp [pixelSymbol]
  unfold TextWindow.line Grid.row
  rw [map_range_two_mul, h.width, ← String.toList_inj, String.toList_ofList, String.toList_join,
    List.map_map, List.flatMap_map]
  refine List.flatMap_congr fun x hx => ?_
  have hin : p.grid.InBounds x y := by
    have hx := List.mem_range.1 hx
    refine ⟨Int.natCast_nonneg _, ?_, Int.natCast_nonneg _, ?_⟩
    · rw [h.width]
      exact Int.ofNat_lt.2 hx
    · rw [h.height]
      exact Int.ofNat_lt.2 hy
  obtain ⟨hleft, hright⟩ := h.pixel x y hin
  have hcolumn : ((2 * x : Nat) : Int) + 1 = 2 * x + 1 := by omega
  have hcolumn' : ((2 * x + 1 : Nat) : Int) + 1 = 2 * x + 2 := by omega
  rw [Function.comp_apply, hsymbols, hcolumn, hcolumn', hleft, hright]

/-- Between its borders the window reads as the picture does. -/
theorem Mirrored.interior (h : p.Mirrored) :
    p.window.interior = p.grid.text "██" "  " := by
  unfold TextWindow.interior Grid.text Grid.rows
  rw [h.height, List.map_map]
  congr 1
  refine List.map_congr_left fun y hy => ?_
  exact h.line (List.mem_range.1 hy)

end Panel

/-! ## At every moment -/

/-- After any calls to a panel, its window shows the pixels in two symbols each
and an unbroken border; nothing was ever written on the border or outside; the
lines inside are the picture as a text; and the pixels, with every answer about
them, are those of a plain grid that was called alike. A bit is written exactly
when it changes its pixel, and nothing else is. All this holds for every use of
a console with a panel, since that amounts to calls to it. -/
theorem window_mirrors_pixels :
    (∀ (calls : List ScreenCall) (p : Panel), p = after Screen.answer Panel.blank calls →
      p.Mirrored ∧
      p.window.interior = p.grid.text "██" "  " ∧
      p.grid = after Screen.answer Grid.standard calls ∧
      answers Screen.answer Panel.blank calls = answers Screen.answer Grid.standard calls ∧
      (∀ x y bit, bit = 0 ∨ bit = 1 → (p.set x y bit).writeCount =
        p.writeCount + if (p.set x y bit).grid = p.grid then 0 else 1) ∧
      p.clear.writeCount = p.writeCount ∧ p.refresh.writeCount = p.writeCount) ∧
    ∀ {κ ρ : Type} [Keypad κ] [RandomSource ρ] (c : Console κ Panel ρ),
      c.devices.screen = .blank → ∀ ops : List Operation,
        ∃ calls, (ops.foldl Console.operate c).devices.screen =
          after Screen.answer Panel.blank calls := by
  constructor
  · rintro calls p rfl
    have hmirrored := Panel.mirrored_blank.after calls
    exact ⟨hmirrored, hmirrored.interior, (Panel.embeds_grid.after _ calls).symm,
      (Panel.embeds_grid.answers _ calls).symm,
      fun x y bit hbit => Panel.writeCount_set _ hbit, rfl, rfl⟩
  · intro κ ρ _ _ c hc ops
    rw [← hc]
    exact c.exists_calls_operations ops

/-- A pixel that is set shows, and it is written once more when it goes out. -/
theorem window_shows_a_pixel :
    ∃ p : Panel, p = after Screen.answer Panel.blank [.set 3 2 1] ∧
      p.window.symbol 3 7 = '█' ∧ p.window.symbol 3 129 = '│' ∧ (p.set 3 2 0).writeCount = 2 ∧
      ∃ (c : Console SilentKeypad Panel Splitting) (calls : List ScreenCall),
        (c.operate (.command (.word 0xD005))).devices.screen =
          after Screen.answer Panel.blank calls := by
  let c : Console SilentKeypad Panel Splitting := .new ⟨{}, .blank, ⟨⟨0, 0⟩⟩⟩
  let p := Panel.blank.set 3 2 1
  obtain ⟨hmirrored, -, -, -, hwritten, -, -⟩ := window_mirrors_pixels.1 [.set 3 2 1] p rfl
  have hfirst : Panel.blank.Redraws 3 2 1 := by
    refine ⟨?_, by decide⟩
    unfold Grid.get
    rw [show Panel.blank.grid.lit 3 2 = false from Grid.lit_blank _ _ _ _]
    decide
  have hcount : p.writeCount = 1 := congrArg Panel.writeCount (Panel.set_of_redraws hfirst)
  have hlit : p.grid.lit 3 2 = true :=
    (Grid.lit_set _ 3 2 1 3 2).trans (if_pos ⟨hfirst.2, rfl, rfl⟩)
  have hin : p.grid.InBounds 3 2 := Grid.inBounds_of_lit hlit
  have hsecond : p.Redraws 3 2 0 := by
    refine ⟨?_, hin⟩
    unfold Grid.get
    rw [hlit]
    decide
  have hchanged : (p.set 3 2 0).grid ≠ p.grid := Panel.grid_set_ne (.inl rfl) hsecond
  have hshown : p.window.symbol (2 + 1) (2 * 3 + 1) = '█' := by
    rw [(hmirrored.pixel 3 2 hin).1, hlit]
    rfl
  refine ⟨p, rfl, hshown, hmirrored.border 3 129 (by decide), ?_, c,
    window_mirrors_pixels.2 c rfl [.command (.word 0xD005)]⟩
  rw [hwritten 3 2 0 (.inl rfl), if_neg hchanged, hcount]

end Chip8
