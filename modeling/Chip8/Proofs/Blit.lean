-- One drawing, told pixel by pixel: each pixel that the screen covers takes the
-- bit of the sprite that falls on it, and the flag tells whether a lit one went out.
import Chip8.Proofs.Drawing
import Chip8.Screen.Basic
namespace Chip8

open Instruction

/-- A screen without edges covers every pixel. -/
instance : Plane SparseScreen where
  covers _ _ _ := true
  covers_set _ _ _ _ := rfl
  get_set_self _ _ := by
    refine (SparseScreen.get_set _ _ _ _ _ _).trans ?_
    rw [if_pos ⟨rfl, rfl⟩]
  get_set_ne bit hne := by
    refine (SparseScreen.get_set _ _ _ bit _ _).trans ?_
    rw [if_neg fun h => hne (Prod.ext h.1 h.2)]
    rfl
  get_of_not_covers h := by cases h

/-- A drawing has a set bit at a pixel. The bits of a byte go from left to right
from the highest one on, and the bytes go down from the index on. -/
def Machine.DrawsAt (m : Machine) (x y n p q : Int) : Prop :=
  (0 ≤ p - (m.reg x).toNat ∧ p - (m.reg x).toNat < 8) ∧
  (0 ≤ q - (m.reg y).toNat ∧ q - (m.reg y).toNat < n) ∧
  (m.byteAt (m.index.toNat + (q - (m.reg y).toNat).toNat)).toNat.testBit
    (7 - (p - (m.reg x).toNat).toNat) = true

instance (m : Machine) (x y n p q : Int) : Decidable (m.DrawsAt x y n p q) :=
  inferInstanceAs (Decidable (_ ∧ _ ∧ _))

namespace Console

/-- A console that drew a sprite. Each pixel that the screen covers took its bit,
and nothing of the machine has changed but the flag, the program counter and the
timers. -/
structure Blitted {κ σ ρ : Type} [Screen σ] (covers : Int → Int → Bool) (c : Console κ σ ρ)
    (x y n : Int) (c' : Console κ σ ρ) : Prop where
  pixel : ∀ p q, Screen.get c'.devices.screen p q =
    bitXor (Screen.get c.devices.screen p q)
      (if covers p q ∧ c.machine.DrawsAt x y n p q then 1 else 0)
  flag : c'.machine.reg 15 = 0 ∨ c'.machine.reg 15 = 1
  collision : c'.machine.reg 15 = 1 ↔
    ∃ p q, covers p q ∧ c.machine.DrawsAt x y n p q ∧ Screen.get c.devices.screen p q = 1
  registers : ∀ k ≠ flagRegister, c'.machine.registers.get k = c.machine.registers.get k
  memory : c'.machine.memory = c.machine.memory
  index : c'.machine.index = c.machine.index

/-- The placement that a console draws shows the bits from the index on. -/
theorem lit_placement_iff {κ σ ρ : Type} (c : Console κ σ ρ) {x y n : Int} (p q : Int) :
    (c.placement x y n).Lit p q ↔ c.machine.DrawsAt x y n p q := by
  unfold Placement.Lit Machine.DrawsAt placement
  dsimp only
  rw [Machine.getElem?_bytesAt]
  by_cases hrow : (q - (c.machine.reg y).toNat).toNat < n.toNat
  · rw [if_pos hrow, Option.getD_some]
    constructor
    · rintro ⟨hleft, hright, hup, hbit⟩
      exact ⟨⟨hleft, hright⟩, ⟨hup, by omega⟩, hbit⟩
    · rintro ⟨⟨hleft, hright⟩, ⟨hup, -⟩, hbit⟩
      exact ⟨hleft, hright, hup, hbit⟩
  · rw [if_neg hrow]
    constructor
    · rintro ⟨-, -, -, hbit⟩
      simp at hbit
    · rintro ⟨-, ⟨hup, hdown⟩, -⟩
      omega

section
variable {κ σ ρ : Type} [Keypad κ] [Screen σ] [Plane σ] [RandomSource ρ]
variable {c c' : Console κ σ ρ} {x y n : Int}

theorem Carried.blitted (h : c.Carried (draw x y n) c') (hscreen : TwoValued c.devices.screen) :
    c.Blitted (Plane.covers c.devices.screen) x y n c' := by
  obtain ⟨hpixels, hmachine⟩ := h.drawn
  have hflag : c'.machine.reg 15 =
      if (blit c.devices.screen (c.placement x y n).cells).2 then 1 else 0 :=
    (congrArg (Machine.reg · 15) hmachine).trans (Machine.reg_setReg_self _ 15 _)
  refine ⟨fun p q => ?_, ?_, ?_, fun k hk => ?_, ?_, ?_⟩
  · rw [hpixels, Placement.get_blit _ hscreen]
    simp only [lit_placement_iff]
  · rw [hflag]
    split
    · exact .inr rfl
    · exact .inl rfl
  · have hhit := (c.placement x y n).hit_blit_iff hscreen
    simp only [lit_placement_iff] at hhit
    have hone : c'.machine.reg 15 = 1 ↔
        (blit c.devices.screen (c.placement x y n).cells).2 = true := by
      rw [hflag]
      split <;> simp [*]
    rw [hone, hhit]
    constructor
    · rintro ⟨p, q, hbit, hlit⟩
      refine ⟨p, q, ?_, hbit, hlit⟩
      -- off the screen nothing is lit
      by_contra hout
      rw [Plane.get_of_not_covers (Bool.eq_false_iff.2 hout)] at hlit
      cases hlit
    · rintro ⟨p, q, -, hbit, hlit⟩
      exact ⟨p, q, hbit, hlit⟩
  · rw [hmachine]
    exact Machine.get_setReg_ne hk
  · rw [hmachine]
    rfl
  · rw [hmachine]
    rfl

end

/-- Drawing is an exclusive or of the screen with the bits of a sprite, clipped at
the edges of a grid and nowhere else. It succeeds whenever the sprite lies in
memory. The flag is set exactly when a set bit falls on a lit pixel; the place of
the sprite is read before the flag is written, also where it is the flag. -/
theorem drawing_is_an_xor_blit {κ ρ : Type} [Keypad κ] [RandomSource ρ] {x y n : Int}
    (hx : 0 ≤ x ∧ x ≤ 15) (hy : 0 ≤ y ∧ y ≤ 15) (hn : 0 ≤ n ∧ n ≤ 15) :
    (∀ c : Console κ Grid ρ, c.machine.index.toNat + n ≤ 4096 →
      (∃ c', c.Executed (draw x y n) c') ∧
      ∀ c', c.Carried (draw x y n) c' →
        c.Blitted (fun p q => decide (c.devices.screen.InBounds p q)) x y n c') ∧
    ∀ c : Console κ SparseScreen ρ, c.machine.index.toNat + n ≤ 4096 →
      TwoValued c.devices.screen →
      (∃ c', c.Executed (draw x y n) c') ∧
      ∀ c', c.Carried (draw x y n) c' → c.Blitted (fun _ _ => true) x y n c' := by
  have hlegal : (draw x y n).Legal :=
    List.forall_mem_cons.2 ⟨hx, List.forall_mem_cons.2 ⟨hy, List.forall_mem_singleton.2 hn⟩⟩
  constructor
  · intro c hend
    exact ⟨exists_drawn hlegal hend, fun c' hdraw => hdraw.blitted c.devices.screen.twoValued⟩
  · intro c hend hscreen
    exact ⟨exists_drawn hlegal hend, fun c' hdraw => hdraw.blitted hscreen⟩

/-- The four bits of `F0` at the place that the flag register names. On a grid of
ten columns two of them are cut off, and without edges none is. Both times a lit
pixel goes out, and the flag tells so. -/
theorem drawing_is_cut_off_on_a_grid_only :
    ∃ (c c' : Console SilentKeypad Grid Splitting)
      (e e' : Console SilentKeypad SparseScreen Splitting),
      c.devices.screen = (Grid.blank 10 1).set 9 0 1 ∧ c.machine.reg 15 = 8 ∧
      c.Carried (draw 15 0 1) c' ∧ Screen.get c'.devices.screen 8 0 = 1 ∧
      Screen.get c'.devices.screen 9 0 = 0 ∧ Screen.get c'.devices.screen 11 0 = 0 ∧
      c'.machine.reg 15 = 1 ∧
      e.devices.screen = SparseScreen.empty.set 9 0 1 ∧ e.machine = c.machine ∧
      e.Carried (draw 15 0 1) e' ∧ Screen.get e'.devices.screen 11 0 = 1 ∧
      e'.machine.reg 15 = 1 := by
  let grid : Grid := (Grid.blank 10 1).set 9 0 1
  let sparse : SparseScreen := SparseScreen.empty.set 9 0 1
  let c : Console SilentKeypad Grid Splitting :=
    ((Console.new ⟨{}, grid, ⟨⟨0, 0⟩⟩⟩).execute (setConst 15 8)).2
  let e : Console SilentKeypad SparseScreen Splitting :=
    ((Console.new ⟨{}, sparse, ⟨⟨0, 0⟩⟩⟩).execute (setConst 15 8)).2
  have hsparse (p q : Int) : Screen.get sparse p q = if p = 9 ∧ q = 0 then 1 else 0 := by
    refine (SparseScreen.get_set _ _ _ _ _ _).trans ?_
    rw [SparseScreen.get_empty]
  have htwo : TwoValued e.devices.screen := by
    intro p q
    show Screen.get sparse p q = 0 ∨ Screen.get sparse p q = 1
    rw [hsparse]
    split
    · exact .inr rfl
    · exact .inl rfl
  have hbits : c.machine.DrawsAt 15 0 1 8 0 ∧ c.machine.DrawsAt 15 0 1 9 0 ∧
      c.machine.DrawsAt 15 0 1 11 0 := by decide +kernel
  obtain ⟨hgrid, hedgeless⟩ := drawing_is_an_xor_blit (κ := SilentKeypad) (ρ := Splitting)
    (x := 15) (y := 0) (n := 1) (by decide) (by decide) (by decide)
  obtain ⟨⟨c', hc'⟩, hblit⟩ := hgrid c (by decide)
  obtain ⟨⟨e', he'⟩, hblit'⟩ := hedgeless e (by decide) htwo
  have hc := hblit c' (.inr hc')
  have he := hblit' e' (.inr he')
  have hlit : Screen.get c.devices.screen 9 0 = 1 := by decide
  have hlit' : Screen.get e.devices.screen 9 0 = 1 := hsparse 9 0
  have hdark : Screen.get c.devices.screen 8 0 = 0 := by decide
  have hdark' : Screen.get e.devices.screen 11 0 = 0 := hsparse 11 0
  obtain ⟨h8, h9, h11⟩ := hbits
  have hcollision : c'.machine.reg 15 = 1 := hc.collision.2 ⟨9, 0, by decide, h9, hlit⟩
  have hcollision' : e'.machine.reg 15 = 1 := he.collision.2 ⟨9, 0, rfl, h9, hlit'⟩
  refine ⟨c, c', e, e', rfl, rfl, .inr hc', ?_, ?_, ?_, hcollision, rfl, rfl, .inr he', ?_,
    hcollision'⟩
  · rw [hc.pixel, hdark, if_pos ⟨by decide, h8⟩]
    rfl
  · rw [hc.pixel, hlit, if_pos ⟨by decide, h9⟩]
    rfl
  · rw [hc.pixel, if_neg fun h => absurd h.1 (by decide)]
    rfl
  · rw [he.pixel, hdark', if_pos ⟨rfl, h11⟩]
    rfl

end Console

end Chip8
