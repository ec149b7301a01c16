-- The screen with edges and the one without show the same picture as long as
-- no set bit of a sprite falls off the grid. Off the grid, the one without
-- edges keeps only zeros then.
import Chip8.Proofs.Drawing
import Chip8.Screen.Basic
namespace Chip8

open Instruction

/-! ## Pictures -/

/-- A screen without edges and a grid show the same picture. -/
def SparseScreen.Shows (s : SparseScreen) (g : Grid) : Prop := ∀ p q, s.get p q = g.get p q

/-- A cell of a sprite is out or on the grid. -/
def Grid.Holds (g : Grid) (cell : Int × Int × Int) : Prop :=
  (cell.2.2 = 0 ∨ cell.2.2 = 1) ∧ (cell.2.2 = 1 → g.InBounds cell.1 cell.2.1)

namespace SparseScreen.Shows

variable {s : SparseScreen} {g : Grid}

theorem blank (width height : Nat) : empty.Shows (.blank width height) := fun p q => by
  rw [get_empty, Grid.get, Grid.lit_blank]
  rfl

/-- A zero may be set anywhere, since it is not seen off the grid. -/
theorem set (h : s.Shows g) {x y bit : Int} (hcell : g.Holds (x, y, bit)) :
    (s.set x y bit).Shows (g.set x y bit) := by
  obtain ⟨hbit, hin⟩ := hcell
  intro p q
  rw [get_set, Grid.get, Grid.lit_set]
  by_cases hplace : p = x ∧ q = y
  · obtain ⟨rfl, rfl⟩ := hplace
    rcases hbit with hbit | hbit
    · obtain rfl : bit = 0 := hbit
      by_cases hp : g.InBounds p q
      · simp [hp]
      · simp [hp, Grid.lit_of_not_inBounds hp]
    · obtain rfl : bit = 1 := hbit
      simp [show g.InBounds p q from hin rfl]
  · simp only [hplace, and_false, if_false]
    exact h p q

theorem plot (h : s.Shows g) (hit : Bool) {cell : Int × Int × Int} (hcell : g.Holds cell) :
    (Chip8.plot (s, hit) cell).1.Shows (Chip8.plot (g, hit) cell).1 ∧
      (Chip8.plot (s, hit) cell).2 = (Chip8.plot (g, hit) cell).2 := by
  obtain ⟨x, y, bit⟩ := cell
  have hold : s.get x y = g.get x y := h x y
  -- a pixel that comes out lit was lit before or is under a set bit
  have hnew : g.Holds (x, y, bitXor (g.get x y) bit) := by
    obtain ⟨hbit, hin⟩ := hcell
    unfold Grid.get
    cases hlit : g.lit x y with
    | false =>
      rcases hbit with hbit | hbit
      · obtain rfl : bit = 0 := hbit
        exact ⟨.inl rfl, nofun⟩
      · obtain rfl : bit = 1 := hbit
        exact ⟨.inr rfl, hin⟩
    | true =>
      refine ⟨?_, fun _ => Grid.inBounds_of_lit hlit⟩
      rcases hbit with hbit | hbit
      · obtain rfl : bit = 0 := hbit
        exact .inr rfl
      · obtain rfl : bit = 1 := hbit
        exact .inl rfl
  constructor
  · show (s.set x y (bitXor (s.get x y) bit)).Shows (g.set x y (bitXor (g.get x y) bit))
    rw [hold]
    exact h.set hnew
  · show (hit || (s.get x y == 1 && bitXor (s.get x y) bit == 0)) = _
    rw [hold]
    rfl

theorem foldl_plot (h : s.Shows g) {cells : List (Int × Int × Int)} (hit : Bool)
    (hcells : ∀ cell ∈ cells, g.Holds cell) :
    (cells.foldl Chip8.plot (s, hit)).1.Shows (cells.foldl Chip8.plot (g, hit)).1 ∧
      (cells.foldl Chip8.plot (s, hit)).2 = (cells.foldl Chip8.plot (g, hit)).2 := by
  induction cells generalizing s g hit with
  | nil => exact ⟨h, rfl⟩
  | cons cell rest ih =>
    obtain ⟨hfirst, hrest⟩ := List.forall_mem_cons.1 hcells
    obtain ⟨hshows, hhit⟩ := h.plot hit hfirst
    have hsize := sameSize_plot (g, hit) cell
    have hplot : Chip8.plot (s, hit) cell =
        ((Chip8.plot (s, hit) cell).1, (Chip8.plot (g, hit) cell).2) := Prod.ext rfl hhit
    rw [List.foldl_cons, List.foldl_cons, hplot]
    exact ih hshows _ fun cell hcell =>
      ⟨(hrest cell hcell).1, fun hbit => (hsize.inBounds_iff _ _).2 ((hrest cell hcell).2 hbit)⟩

end SparseScreen.Shows

/-- The set bits of a sprite are on a grid. -/
def Placement.OnGrid (s : Placement) (width height : Nat) : Prop :=
  ∀ p q, s.Lit p q → 0 ≤ p ∧ p < width ∧ 0 ≤ q ∧ q < height

theorem Placement.onGrid_iff_cells {s : Placement} {width height : Nat} :
    s.OnGrid width height ↔ ∀ cell ∈ s.cells, cell.2.2 = 1 →
      0 ≤ cell.1 ∧ cell.1 < width ∧ 0 ≤ cell.2.1 ∧ cell.2.1 < height := by
  constructor
  · rintro h ⟨p, q, bit⟩ hcell hbit
    obtain rfl : bit = 1 := hbit
    exact h p q (mem_cells_iff.1 hcell)
  · intro h p q hlit
    exact h (p, q, 1) (mem_cells_iff.2 hlit) rfl

instance (s : Placement) (width height : Nat) : Decidable (s.OnGrid width height) :=
  decidable_of_iff _ Placement.onGrid_iff_cells.symm

theorem SparseScreen.Shows.blit {s : SparseScreen} {g : Grid} (h : s.Shows g) {sprite : Placement}
    (hsprite : sprite.OnGrid g.width g.height) :
    (Chip8.blit s sprite.cells).1.Shows (Chip8.blit g sprite.cells).1 ∧
      (Chip8.blit s sprite.cells).2 = (Chip8.blit g sprite.cells).2 := by
  have hcells := Placement.onGrid_iff_cells.1 hsprite
  exact h.foldl_plot false fun cell hcell => ⟨sprite.bits_cells cell hcell, hcells cell hcell⟩

/-! ## Cycles -/

/-- Devices that differ in their screens only, and these show the same picture. -/
structure Devices.Mirrors {κ ρ : Type} (width height : Nat) (d : Devices κ SparseScreen ρ)
    (d' : Devices κ Grid ρ) : Prop where
  keypad : d'.keypad = d.keypad
  random : d'.random = d.random
  width : d'.screen.width = width
  height : d'.screen.height = height
  shows : d.screen.Shows d'.screen

/-- An instruction whose sprite is on the grid, if it draws one. -/
def Machine.DrawsOnGrid (m : Machine) (width height : Nat) (i : Instruction) : Prop :=
  ∀ x y n, i = draw x y n → m.index.toNat + n ≤ memorySize →
    Placement.OnGrid ⟨m.reg x, m.reg y, m.bytesAt m.index.toNat n.toNat⟩ width height

section
variable {κ ρ : Type} {width height : Nat}
variable {d : Devices κ SparseScreen ρ} {d' : Devices κ Grid ρ}

theorem drawSprite_mirrors (h : d.Mirrors width height d') {m : Machine} {x y n : Int}
    (hgrid : m.DrawsOnGrid width height (draw x y n)) :
    (drawSprite m x y n d').1 = (drawSprite m x y n d).1 ∧
      (drawSprite m x y n d).2.Mirrors width height (drawSprite m x y n d').2 := by
  unfold drawSprite
  cases hrange : m.checkAtIndex n with
  | error f => exact ⟨rfl, h⟩
  | ok address =>
    let sprite : Placement := ⟨m.reg x, m.reg y, m.bytesAt m.index.toNat n.toNat⟩
    have hsprite : sprite.OnGrid width height :=
      hgrid x y n rfl (Machine.checkAtIndex_eq_ok_iff.1 hrange).1
    rw [← h.width, ← h.height] at hsprite
    obtain ⟨hshows, hhit⟩ := h.shows.blit hsprite
    have hsize := sprite.sameSize_blit d'.screen
    refine ⟨?_, h.keypad, h.random, hsize.1.trans h.width, hsize.2.trans h.height, hshows⟩
    show Except.ok (m.setReg flagRegister (if (blit d'.screen sprite.cells).2 then 1 else 0)) =
      .ok (m.setReg flagRegister (if (blit d.screen sprite.cells).2 then 1 else 0))
    rw [hhit]

variable [Keypad κ]

theorem takeKey_mirrors (h : d.Mirrors width height d') (m : Machine) (x : Int) :
    (takeKey m x d').1 = (takeKey m x d).1 := by
  unfold takeKey
  rw [h.keypad]
  simp only
  split
  · rfl
  · split <;> rfl

variable [RandomSource ρ]

/-- An instruction answers alike on both, and leaves them alike. -/
theorem effect_mirrors (h : d.Mirrors width height d') {m : Machine} {i : Instruction}
    (hgrid : m.DrawsOnGrid width height i) :
    (effect i m d').1 = (effect i m d).1 ∧
      (effect i m d).2.Mirrors width height (effect i m d').2 := by
  by_cases hdraw : ∃ x y n, i = draw x y n
  · obtain ⟨x, y, n, rfl⟩ := hdraw
    exact drawSprite_mirrors h hgrid
  · -- all that is left of the screen is that it may be cleared
    have hkeypad : (effect i m d').2.keypad = (effect i m d).2.keypad := by
      rw [keypad_effect, keypad_effect, h.keypad]
    have hrandom : (effect i m d').2.random = (effect i m d).2.random := by
      rw [random_effect, random_effect, h.random]
    have hanswer : (effect i m d').1 = (effect i m d).1 := by
      cases i
      case draw x y n => exact absurd ⟨x, y, n, rfl⟩ hdraw
      case waitKey x => exact takeKey_mirrors h m x
      all_goals simp only [effect, h.keypad, h.random]
    refine ⟨hanswer, ?_⟩
    by_cases hclear : i = clearScreen
    · subst hclear
      exact ⟨hkeypad, hrandom, h.width, h.height, .blank _ _⟩
    · have hscreen := screen_effect i m d hclear fun x y n hi => hdraw ⟨x, y, n, hi⟩
      have hscreen' := screen_effect i m d' hclear fun x y n hi => hdraw ⟨x, y, n, hi⟩
      refine ⟨hkeypad, hrandom, ?_, ?_, ?_⟩
      · rw [hscreen']
        exact h.width
      · rw [hscreen']
        exact h.height
      · rw [hscreen, hscreen']
        exact h.shows

end

/-! ## Runs -/

namespace Console

def withScreen {κ σ σ' ρ : Type} (c : Console κ σ ρ) (screen : σ') : Console κ σ' ρ :=
  ⟨c.machine, ⟨c.devices.keypad, screen, c.devices.random⟩, c.program, c.journal⟩

/-- Consoles that differ in their screens only, and these show the same
picture. What they were told and what a reset would load may differ. -/
structure Mirrors {κ ρ : Type} (width height : Nat) (c : Console κ SparseScreen ρ)
    (e : Console κ Grid ρ) : Prop where
  machine : e.machine = c.machine
  devices : c.devices.Mirrors width height e.devices

variable {κ ρ : Type} {width height : Nat}
variable {c : Console κ SparseScreen ρ} {e : Console κ Grid ρ}

theorem Mirrors.finish (h : c.Mirrors width height e)
    {outcome : Except Fault Machine × Devices κ SparseScreen ρ}
    {outcome' : Except Fault Machine × Devices κ Grid ρ} (hanswer : outcome'.1 = outcome.1)
    (hdevices : outcome.2.Mirrors width height outcome'.2) :
    (e.finish outcome').1 = (c.finish outcome).1 ∧
      (c.finish outcome).2.Mirrors width height (e.finish outcome').2 := by
  obtain ⟨answer, d⟩ := outcome
  obtain ⟨answer', d'⟩ := outcome'
  obtain rfl : answer' = answer := hanswer
  cases answer' with
  | error f => exact ⟨rfl, h.machine, hdevices⟩
  | ok m => exact ⟨rfl, rfl, hdevices⟩

variable [Keypad κ] [RandomSource ρ]

theorem Mirrors.step (h : c.Mirrors width height e)
    (hgrid : ∀ i, c.machine.upcoming = .ok i →
      c.machine.tick.advance.DrawsOnGrid width height i) :
    e.step.1 = c.step.1 ∧ c.step.2.Mirrors width height e.step.2 := by
  have houtcome : (Chip8.step e.machine e.devices).1 = (Chip8.step c.machine c.devices).1 ∧
      (Chip8.step c.machine c.devices).2.Mirrors width height
        (Chip8.step e.machine e.devices).2 := by
    unfold Chip8.step
    rw [h.machine, Machine.upcoming_tick]
    cases hi : c.machine.upcoming with
    | error f => exact ⟨rfl, h.devices⟩
    | ok i => exact effect_mirrors h.devices (hgrid i hi)
  have htold : (c.tell c.stepNotices).Mirrors width height (e.tell e.stepNotices) :=
    ⟨h.machine, h.devices⟩
  exact htold.finish houtcome.1 houtcome.2

section
variable {σ : Type} [Screen σ]

/-- The console after a number of steps. A step that fails is one, too. -/
def afterSteps (c : Console κ σ ρ) : Nat → Console κ σ ρ
  | 0 => c
  | n + 1 => (afterSteps c n).step.2

/-- Every sprite that is drawn in a number of steps has its set bits on a grid. -/
def DrawsOnGrid (c : Console κ σ ρ) (width height n : Nat) : Prop :=
  ∀ j < n, ∀ x y rows, (c.afterSteps j).Stepped (draw x y rows) (c.afterSteps (j + 1)) →
    ((c.afterSteps j).placement x y rows).OnGrid width height

theorem stepped_draw {c : Console κ σ ρ} {x y n : Int}
    (hi : c.machine.upcoming = .ok (draw x y n)) (hrange : c.machine.index.toNat + n ≤ memorySize) :
    c.Stepped (draw x y n) c.step.2 := by
  obtain ⟨c', hdrawn⟩ := exists_executed (c := c) (Machine.upcoming_eq_ok hi).2
    (drawSprite_eq_ok_iff.2 ⟨hrange, _, rfl, rfl, rfl⟩)
  have hstep := hdrawn.stepped hi
  rw [hstep.2]
  exact hstep

theorem DrawsOnGrid.upcoming {c : Console κ σ ρ} {n j : Nat} {i : Instruction}
    (h : c.DrawsOnGrid width height n) (hj : j < n)
    (hi : (c.afterSteps j).machine.upcoming = .ok i) :
    (c.afterSteps j).machine.tick.advance.DrawsOnGrid width height i := by
  rintro x y rows rfl hrange
  exact h j hj x y rows (stepped_draw hi hrange)

end

theorem Mirrors.afterSteps (h : c.Mirrors width height e) {n : Nat}
    (hgrid : c.DrawsOnGrid width height n ∨ e.DrawsOnGrid width height n) :
    ∀ j ≤ n, (c.afterSteps j).Mirrors width height (e.afterSteps j) ∧
      (j < n → (e.afterSteps j).step.1 = (c.afterSteps j).step.1) := by
  have hstep {j : Nat} (hj : j < n)
      (hbefore : (c.afterSteps j).Mirrors width height (e.afterSteps j)) :=
    hbefore.step fun i hi => by
      rcases hgrid with hgrid | hgrid
      · exact hgrid.upcoming hj hi
      · rw [← hbefore.machine] at hi ⊢
        exact hgrid.upcoming hj hi
  intro j
  induction j with
  | zero => exact fun _ => ⟨h, fun hj => (hstep hj h).1⟩
  | succ j ih =>
    intro hj
    have hbefore := (ih (Nat.le_of_succ_le hj)).1
    have hafter := (hstep hj hbefore).2
    exact ⟨hafter, fun hj' => (hstep hj' hafter).1⟩

/-- As long as the sprites that are drawn are on the grid, nobody can tell a
blank grid from a blank screen without edges: after every step the machines are
the same and the pictures, too, and the steps succeed or fail alike. It is
enough that the sprites of one of the two runs are on the grid. -/
theorem screens_agree_on_grid {σ : Type} (a : Console κ σ ρ) (width height n : Nat)
    (c : Console κ SparseScreen ρ) (hc : c = a.withScreen .empty)
    (e : Console κ Grid ρ) (he : e = a.withScreen (.blank width height))
    (hgrid : c.DrawsOnGrid width height n ∨ e.DrawsOnGrid width height n) :
    (∀ j ≤ n, (e.afterSteps j).machine = (c.afterSteps j).machine ∧
      ∀ p q, (e.afterSteps j).devices.screen.get p q = (c.afterSteps j).devices.screen.get p q) ∧
    ∀ j < n, (e.afterSteps j).step.1 = (c.afterSteps j).step.1 := by
  have hstart : c.Mirrors width height e := by
    subst hc he
    exact ⟨rfl, rfl, rfl, rfl, rfl, .blank width height⟩
  have hmirrors := hstart.afterSteps hgrid
  refine ⟨fun j hj => ?_, fun j hj => (hmirrors j (Nat.le_of_lt hj)).2 hj⟩
  have hj := (hmirrors j hj).1
  exact ⟨hj.machine, fun p q => (hj.devices.shows p q).symm⟩

/-- The digit 0, whose glyph stands at the beginning of memory, fits a grid of
four columns and five rows. -/
theorem screens_agree_on_digit :
    ∃ (c : Console SilentKeypad SparseScreen Splitting) (e : Console SilentKeypad Grid Splitting),
      c.Stepped (draw 0 0 5) (c.afterSteps 1) ∧ e.devices.screen = .blank 4 5 ∧
      (e.afterSteps 1).machine = (c.afterSteps 1).machine ∧
      ∀ p q, (e.afterSteps 1).devices.screen.get p q = (c.afterSteps 1).devices.screen.get p q := by
  let a : Console SilentKeypad Grid Splitting := loaded [0xD0, 0x05]
  have hdraw : (a.withScreen SparseScreen.empty).machine.upcoming = .ok (draw 0 0 5) :=
    @Machine.upcoming_load a.machine _ [0xD0, 0x05] 0 rfl rfl (by decide) (by decide) (by decide)
  have hglyph : (a.placement 0 0 5).OnGrid 4 5 := by decide +kernel
  have hgrid : (a.withScreen SparseScreen.empty).DrawsOnGrid 4 5 1 := by
    intro j hj x y rows hstepped
    obtain rfl : j = 0 := by omega
    cases hdraw.symm.trans hstepped.1
    exact hglyph
  obtain ⟨hagree, -⟩ := screens_agree_on_grid a 4 5 1 _ rfl _ rfl (.inl hgrid)
  exact ⟨_, _, stepped_draw hdraw (by decide), rfl, hagree 1 (Nat.le_refl 1)⟩

end Console

end Chip8
