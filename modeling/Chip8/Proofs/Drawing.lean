-- Drawing over whole runs: a pixel ends up flipped if an odd number of sprites
-- had a set bit there. So their order does not matter, and drawing twice draws
-- nothing.
import Chip8.Proofs.Footprint
import Chip8.Proofs.Sprite
namespace Chip8

open Instruction

/-! ## One drawing -/

namespace Console

/-- The sprite that a console draws from its index on, at the place that two
registers name. -/
def placement {κ σ ρ : Type} (c : Console κ σ ρ) (x y n : Int) : Placement :=
  ⟨c.machine.reg x, c.machine.reg y, c.machine.bytesAt c.machine.index.toNat n.toNat⟩

section
variable {κ σ ρ : Type} [Keypad κ] [Screen σ] [RandomSource ρ] {c d : Console κ σ ρ} {x y n : Int}

theorem exists_drawn (hlegal : (draw x y n).Legal)
    (hend : c.machine.index.toNat + n ≤ memorySize) : ∃ d, c.Executed (draw x y n) d :=
  exists_executed hlegal (drawSprite_eq_ok_iff.2 ⟨hend, _, rfl, rfl, rfl⟩)

theorem Carried.drawn (h : c.Carried (draw x y n) d) :
    d.devices.screen = (blit c.devices.screen (c.placement x y n).cells).1 ∧
    d.machine = c.machine.tick.advance.setReg flagRegister
      (if (blit c.devices.screen (c.placement x y n).cells).2 then 1 else 0) := by
  obtain ⟨-, heffect⟩ := h.executed.perform
  obtain ⟨-, drawn, rfl, hmachine, hdevices⟩ := drawSprite_eq_ok_iff.1 heffect
  rw [hmachine, hdevices]
  exact ⟨rfl, rfl⟩

end

variable {κ ρ : Type} [Keypad κ] [RandomSource ρ] {c d e : Console κ Grid ρ} {x y n : Int}

/-- Drawing changes the flag only, so a sprite whose place does not depend on it
stays the same. -/
theorem placement_of_drawn {x' y' n' : Int} (h : c.Carried (draw x' y' n') d)
    (hlegal : (draw x y n).Legal) (hx : x ≠ 15) (hy : y ≠ 15) :
    d.placement x y n = c.placement x y n := by
  have hregx : Machine.register x ≠ flagRegister :=
    (ne_register (hlegal _ List.mem_cons_self) hx.symm).symm
  have hregy : Machine.register y ≠ flagRegister :=
    (ne_register (hlegal _ (List.mem_cons_of_mem _ List.mem_cons_self)) hy.symm).symm
  have hx : d.machine.reg x = c.machine.reg x := by
    rw [h.drawn.2]
    exact Machine.get_setReg_ne hregx
  have hy : d.machine.reg y = c.machine.reg y := by
    rw [h.drawn.2]
    exact Machine.get_setReg_ne hregy
  unfold placement
  rw [hx, hy, h.drawn.2]
  rfl

theorem exists_drawn_again (h : c.Carried (draw x y n) d) : ∃ e, d.Executed (draw x y n) e := by
  obtain ⟨hlegal, heffect⟩ := h.executed.perform
  obtain ⟨hrange, -⟩ := drawSprite_eq_ok_iff.1 heffect
  refine exists_drawn hlegal ?_
  rw [h.drawn.2]
  exact hrange

/-- A drawing that is repeated takes itself back, and tells whether it had lit a
pixel. -/
theorem drawn_again (hx : x ≠ 15) (hy : y ≠ 15) (hfirst : c.Carried (draw x y n) d)
    (hsecond : d.Carried (draw x y n) e) :
    e.devices.screen = c.devices.screen ∧
    (e.machine.reg 15 = 0 ∨ e.machine.reg 15 = 1) ∧
    (e.machine.reg 15 = 1 ↔ ∃ p q, c.devices.screen.InBounds p q ∧
      (c.placement x y n).Lit p q ∧ c.devices.screen.lit p q = false) := by
  obtain ⟨hscreen, hmachine⟩ := hsecond.drawn
  rw [hfirst.drawn.1, placement_of_drawn hfirst hfirst.executed.perform.1 hx hy] at hscreen hmachine
  rw [Placement.blit_blit] at hscreen
  have hflag : e.machine.reg 15 = _ :=
    (congrArg (Machine.reg · 15) hmachine).trans (Machine.reg_setReg_self _ 15 _)
  rw [← Placement.hit_blit_blit, hflag]
  refine ⟨hscreen, ?_, ?_⟩ <;> split <;> simp [*]

end Console

/-! ## Runs -/

/-- The sprite that a deed drew, if it drew one. -/
def Deed.placement? {κ σ ρ : Type} (e : Deed κ σ ρ) : Option Placement :=
  match e.instruction with
  | draw x y n => some (e.before.placement x y n)
  | _ => none

def placements {κ σ ρ : Type} (trace : List (Deed κ σ ρ)) : List Placement :=
  trace.filterMap Deed.placement?

theorem bodd_countP_placements {κ σ ρ : Type} (e : Deed κ σ ρ) (trace : List (Deed κ σ ρ))
    (p q : Int) :
    ((placements (e :: trace)).countP fun s => s.Lit p q).bodd =
      ((e.placement?.any fun s => s.Lit p q) ^^
        ((placements trace).countP fun s => s.Lit p q).bodd) := by
  unfold placements
  rw [List.filterMap_cons]
  cases e.placement? with
  | none => exact (Bool.false_xor _).symm
  | some s =>
    rw [List.countP_cons, Nat.bodd_add]
    by_cases hs : s.Lit p q <;> simp [hs]

/-- The screen is not cleared on the way. -/
def Uncleared {κ σ ρ : Type} (trace : List (Deed κ σ ρ)) : Prop :=
  ∀ e ∈ trace, e.instruction ≠ clearScreen

section
variable {κ ρ : Type} [Keypad κ] [RandomSource ρ] {c c' : Console κ Grid ρ}
variable {trace : List (Deed κ Grid ρ)}

/-- An instruction flips the pixels of its sprite, if it draws one. -/
theorem lit_of_carried {i : Instruction} (h : c.Carried i c') (hi : i ≠ clearScreen) :
    c'.devices.screen.SameSize c.devices.screen ∧
    ∀ p q, c.devices.screen.InBounds p q →
      c'.devices.screen.lit p q =
        (c.devices.screen.lit p q ^^ ((Deed.placement? ⟨c, i⟩).any fun s => s.Lit p q)) := by
  by_cases hdraw : ∃ x y n, i = draw x y n
  · obtain ⟨x, y, n, rfl⟩ := hdraw
    rw [h.drawn.1]
    exact ⟨Placement.sameSize_blit _ _, fun p q hin => Placement.lit_blit _ _ hin⟩
  · have hscreen := h.footprint.screen hi fun x y n hi => hdraw ⟨x, y, n, hi⟩
    have hnone : Deed.placement? ⟨c, i⟩ = none := by
      cases i
      case draw x y n => exact absurd ⟨x, y, n, rfl⟩ hdraw
      all_goals rfl
    rw [hscreen, hnone]
    exact ⟨⟨rfl, rfl⟩, fun p q _ => (Bool.xor_false _).symm⟩

/-- A run flips a pixel as often as it draws a sprite with a set bit there. -/
theorem lit_of_run (h : Run Console.Carried c trace c') (hclear : Uncleared trace) :
    c'.devices.screen.SameSize c.devices.screen ∧
    ∀ p q, c.devices.screen.InBounds p q →
      c'.devices.screen.lit p q =
        (c.devices.screen.lit p q ^^ ((placements trace).countP fun s => s.Lit p q).bodd) := by
  induction h with
  | nil c => exact ⟨⟨rfl, rfl⟩, fun p q _ => by simp [placements]⟩
  | cons first _ ih =>
    obtain ⟨hfirst, hrest⟩ := List.forall_mem_cons.1 hclear
    obtain ⟨hsize1, hlit1⟩ := lit_of_carried first hfirst
    obtain ⟨hsize, hlit⟩ := ih hrest
    refine ⟨hsize.trans hsize1, fun p q hin => ?_⟩
    rw [hlit p q ((hsize1.inBounds_iff p q).2 hin), hlit1 p q hin, bodd_countP_placements,
      Bool.xor_assoc]

theorem screen_eq_of_perm {κ' ρ' : Type} [Keypad κ'] [RandomSource ρ'] {b b' : Console κ' Grid ρ'}
    {trace' : List (Deed κ' Grid ρ')} (hstart : b.devices.screen = c.devices.screen)
    (h : Run Console.Carried c trace c') (h' : Run Console.Carried b trace' b')
    (hclear : Uncleared trace) (hclear' : Uncleared trace')
    (hperm : (placements trace).Perm (placements trace')) :
    b'.devices.screen = c'.devices.screen := by
  obtain ⟨hsize, hlit⟩ := lit_of_run h hclear
  obtain ⟨hsize', hlit'⟩ := lit_of_run h' hclear'
  rw [hstart] at hsize' hlit'
  refine Grid.ext_lit (hsize'.trans hsize.symm) fun p q hin => ?_
  have hin := (hsize.inBounds_iff p q).1 hin
  rw [hlit p q hin, hlit' p q hin, hperm.countP_eq]

/-- Drawing does not depend on the order of the sprites and takes itself back. On
a grid of any size, a run of instructions that does not clear the screen flips
each pixel as often as it drew a sprite with a set bit there. So two runs that
draw the same sprites in any order end with the same picture. The same drawing
twice in a row restores the picture, and the flag tells then whether the first
one had lit a pixel. -/
theorem drawing_flips_by_parity {κ' ρ' : Type} [Keypad κ'] [RandomSource ρ']
    (c : Console κ Grid ρ) (b : Console κ' Grid ρ') :
    (∀ trace c', Run Console.Carried c trace c' → Uncleared trace →
      c'.devices.screen.SameSize c.devices.screen ∧
      ∀ p q, c.devices.screen.InBounds p q →
        c'.devices.screen.lit p q =
          (c.devices.screen.lit p q ^^ ((placements trace).countP fun s => s.Lit p q).bodd)) ∧
    (b.devices.screen = c.devices.screen →
      ∀ trace c' trace' b', Run Console.Carried c trace c' → Run Console.Carried b trace' b' →
        Uncleared trace → Uncleared trace' → (placements trace).Perm (placements trace') →
        b'.devices.screen = c'.devices.screen) ∧
    ∀ x y n d, x ≠ 15 → y ≠ 15 → c.Carried (draw x y n) d →
      (∃ e, d.Executed (draw x y n) e) ∧
      ∀ e, d.Carried (draw x y n) e →
        e.devices.screen = c.devices.screen ∧
        (e.machine.reg 15 = 0 ∨ e.machine.reg 15 = 1) ∧
        (e.machine.reg 15 = 1 ↔ ∃ p q, c.devices.screen.InBounds p q ∧
          (c.placement x y n).Lit p q ∧ c.devices.screen.lit p q = false) := by
  refine ⟨fun trace c' => lit_of_run, fun hstart trace c' trace' b' => screen_eq_of_perm hstart,
    fun x y n d hx hy h => ?_⟩
  exact ⟨Console.exists_drawn_again h, fun e => Console.drawn_again hx hy h⟩

end

/-- A dot and a taller sprite give the same picture in either order. A dot that
is drawn twice is gone, and the flag tells so. -/
theorem dot_drawn_twice_is_gone :
    ∃ (c d e : Console SilentKeypad Grid Splitting) (c' b' : Console SilentKeypad Grid Splitting)
      (trace trace' : List (Deed _ _ _)),
      (Run Console.Carried c trace c' ∧ Run Console.Carried c trace' b' ∧ trace ≠ trace' ∧
        b'.devices.screen = c'.devices.screen) ∧
      c.Carried (draw 0 1 1) d ∧ d.devices.screen.lit 0 0 = true ∧
      d.Carried (draw 0 1 1) e ∧ e.devices.screen = c.devices.screen ∧ e.machine.reg 15 = 1 := by
  let c := ((loaded [0x80, 0xC0]).execute (setIndex 0x200)).2
  let dot := (c.execute (draw 0 1 1)).2
  let tall := (c.execute (draw 0 1 2)).2
  have hdot : c.Carried (draw 0 1 1) dot := .inr rfl
  have htall : c.Carried (draw 0 1 2) tall := .inr rfl
  have hthen : dot.Carried (draw 0 1 2) (dot.execute (draw 0 1 2)).2 := .inr rfl
  have hthen' : tall.Carried (draw 0 1 1) (tall.execute (draw 0 1 1)).2 := .inr rfl
  have hagain : dot.Carried (draw 0 1 1) (dot.execute (draw 0 1 1)).2 := .inr rfl
  let trace : List (Deed _ _ _) := [⟨c, draw 0 1 1⟩, ⟨dot, draw 0 1 2⟩]
  let trace' : List (Deed _ _ _) := [⟨c, draw 0 1 2⟩, ⟨tall, draw 0 1 1⟩]
  have hrun : Run Console.Carried c trace _ := .cons hdot (.cons hthen (.nil _))
  have hrun' : Run Console.Carried c trace' _ := .cons htall (.cons hthen' (.nil _))
  have hperm : (placements trace).Perm (placements trace') := by
    show [c.placement 0 1 1, dot.placement 0 1 2].Perm [c.placement 0 1 2, tall.placement 0 1 1]
    rw [Console.placement_of_drawn hdot (by decide) (by decide) (by decide),
      Console.placement_of_drawn htall (by decide) (by decide) (by decide)]
    exact .swap _ _ []
  have hbyte : c.machine.byteAt 0x200 = 0x80 :=
    @Machine.byteAt_load c.machine [0x80, 0xC0] 0 rfl (by decide) (by decide)
  have hplacement : c.placement 0 1 1 = ⟨0, 0, [0x80]⟩ := by
    show Placement.mk 0 0 [c.machine.byteAt 0x200] = _
    rw [hbyte]
  have hdark : c.devices.screen.lit 0 0 = false := Grid.lit_blank _ _ _ _
  have hin : c.devices.screen.InBounds 0 0 := by decide
  obtain ⟨hparity, horder, htwice⟩ := drawing_flips_by_parity c c
  have hlit := (hparity _ _ (.cons hdot (.nil _)) (by simp [Uncleared])).2 0 0 hin
  have hsame := horder rfl trace _ trace' _ hrun hrun' (by simp [Uncleared, trace])
    (by simp [Uncleared, trace']) hperm
  obtain ⟨hpicture, -, hflag⟩ := (htwice 0 1 1 dot (by decide) (by decide) hdot).2 _ hagain
  refine ⟨c, dot, _, _, _, trace, trace', ⟨hrun, hrun', by simp [trace, trace'], hsame⟩, hdot, ?_,
    hagain, hpicture, hflag.2 ⟨0, 0, hin, by rw [hplacement]; decide, hdark⟩⟩
  rw [hlit, hdark]
  show (false ^^ ([c.placement 0 1 1].countP fun s => s.Lit 0 0).bodd) = true
  rw [hplacement]
  decide

end Chip8
