-- Registers that are dumped to memory and loaded again. Whatever is done between,
-- they come back as they were, as long as nothing is stored and the index stays.
import Chip8.Proofs.Footprint
namespace Chip8

open Instruction Machine

namespace Machine

variable {m : Machine}

/-- The bytes of the first registers, where they were written. -/
theorem byteAt_writeBytes_firstRegisters {address count : Nat} {k : Fin registerCount}
    (hk : k < count) (hend : address + count ≤ memorySize) :
    (m.writeBytes address (m.firstRegisters count)).byteAt (address + k) = m.registers.get k := by
  have hplace : address + k < memorySize := by omega
  have hfirst : (m.firstRegisters count)[(k : Nat)]? = some (m.registers.get k) := by
    unfold firstRegisters
    rw [List.getElem?_take_of_lt hk, List.getElem?_eq_getElem (by simp)]
    rfl
  rw [byteAt_writeBytes _ _ _ _ hplace, if_pos (Nat.le_add_right _ _), Nat.add_sub_cancel_left,
    hfirst]
  rfl

/-- Registers that are written from memory hold its bytes. -/
theorem get_overlay_bytesAt {address count : Nat} {k : Fin registerCount} (hk : k < count) :
    (overlay m.registers 0 (m.bytesAt address count)).get k = m.byteAt (address + k) := by
  refine (getElem_overlay _ _ _ _ k.isLt).trans ?_
  rw [if_pos (Nat.zero_le _), Nat.sub_zero, getElem?_bytesAt, if_pos hk]
  rfl

end Machine

section
variable {κ σ ρ : Type} [Keypad κ] [Screen σ] [RandomSource ρ] {m : Machine} {x : Int}

theorem checkAtIndex_countUpTo (hx : Fits .x x) (hend : m.index.toNat + x + 1 ≤ memorySize) :
    m.checkAtIndex (countUpTo x) = .ok m.index.toNat := by
  rw [countUpTo_of_fits hx]
  exact checkAtIndex_eq_ok_iff.2 ⟨by omega, rfl⟩

theorem effect_dumpRegisters (hx : Fits .x x) (hend : m.index.toNat + x + 1 ≤ memorySize)
    (d : Devices κ σ ρ) :
    effect (dumpRegisters x) m d =
      (.ok (m.writeBytes m.index.toNat (m.firstRegisters (countUpTo x))), d) := by
  simp only [effect, checkAtIndex_countUpTo hx hend]
  rfl

theorem effect_loadRegisters (hx : Fits .x x) (hend : m.index.toNat + x + 1 ≤ memorySize)
    (d : Devices κ σ ρ) :
    effect (loadRegisters x) m d =
      (.ok { m with
        registers := overlay m.registers 0 (m.bytesAt m.index.toNat (countUpTo x)) }, d) := by
  simp only [effect, checkAtIndex_countUpTo hx hend]
  rfl

end

namespace Console

variable {κ σ ρ : Type} [Keypad κ] [Screen σ] [RandomSource ρ]
variable {c c' : Console κ σ ρ} {x : Int}

/-! ## Dumping and loading -/

theorem exists_dumped (hx : Fits .x x) (hend : c.machine.index.toNat + x + 1 ≤ memorySize) :
    ∃ c', c.Executed (dumpRegisters x) c' :=
  exists_executed (List.forall_mem_singleton.2 hx)
    (effect_dumpRegisters (m := c.machine.tick.advance) hx hend _)

theorem exists_loaded (hx : Fits .x x) (hend : c.machine.index.toNat + x + 1 ≤ memorySize) :
    ∃ c', c.Executed (loadRegisters x) c' :=
  exists_executed (List.forall_mem_singleton.2 hx)
    (effect_loadRegisters (m := c.machine.tick.advance) hx hend _)

/-- The dumped registers stand in memory from the index on. -/
theorem Carried.byteAt_of_dump (h : c.Carried (dumpRegisters x) c') (hx : Fits .x x)
    (hend : c.machine.index.toNat + x + 1 ≤ memorySize) {k : Fin registerCount}
    (hk : (k : Int) ≤ x) :
    c'.machine.byteAt (c.machine.index.toNat + k) = c.machine.registers.get k := by
  have hcount := countUpTo_of_fits hx
  have hroom : c.machine.tick.advance.index.toNat + countUpTo x ≤ memorySize := by
    show c.machine.index.toNat + countUpTo x ≤ memorySize
    omega
  rw [h.machine_eq (effect_dumpRegisters (m := c.machine.tick.advance) hx hend _)]
  exact byteAt_writeBytes_firstRegisters (m := c.machine.tick.advance) (by omega) hroom

/-- The loaded registers hold what stands there. -/
theorem Carried.get_of_load (h : c.Carried (loadRegisters x) c') (hx : Fits .x x)
    (hend : c.machine.index.toNat + x + 1 ≤ memorySize) {k : Fin registerCount}
    (hk : (k : Int) ≤ x) :
    c'.machine.registers.get k = c.machine.byteAt (c.machine.index.toNat + k) := by
  have hcount := countUpTo_of_fits hx
  rw [h.machine_eq (effect_loadRegisters (m := c.machine.tick.advance) hx hend _)]
  exact get_overlay_bytesAt (m := c.machine.tick.advance) (by omega)

end Console

/-! ## What is done between -/

/-- Nothing is stored on the way, and the index stays. -/
def Unstored {κ σ ρ : Type} (trace : List (Deed κ σ ρ)) : Prop :=
  ∀ e ∈ trace, e.instruction.kind ≠ .memory ∧ e.instruction.kind ≠ .index

section
variable {κ σ ρ : Type} [Keypad κ] [Screen σ] [RandomSource ρ]
variable {c c' : Console κ σ ρ} {trace : List (Deed κ σ ρ)}

theorem memory_of_unstored (h : Run Console.Carried c trace c') (hkinds : Unstored trace) :
    c'.machine.memory = c.machine.memory ∧ c'.machine.index = c.machine.index := by
  induction h with
  | nil c => exact ⟨rfl, rfl⟩
  | cons first _ ih =>
    obtain ⟨⟨hmemory, hindex⟩, hrest⟩ := List.forall_mem_cons.1 hkinds
    obtain ⟨hmemory', hindex'⟩ := ih hrest
    exact ⟨hmemory'.trans (first.outcome.frame.memory hmemory),
      hindex'.trans (first.outcome.frame.index hindex)⟩

end

namespace Console

variable {κ σ ρ : Type} [Keypad κ] [Screen σ] [RandomSource ρ]

/-- Registers that were dumped come back. If nothing is stored after the dump and
the index stays, as many of them as wanted can be loaded again and are as they
were, while the others and the index stay. All that has changed of memory are the
bytes of the dump. -/
theorem dumped_registers_come_back (c : Console κ σ ρ) {x : Int} (hx : 0 ≤ x ∧ x ≤ 15)
    (hend : c.machine.index.toNat + x + 1 ≤ 4096) :
    (∃ d, c.Executed (dumpRegisters x) d) ∧
    ∀ d trace e, c.Carried (dumpRegisters x) d → Run Carried d trace e → Unstored trace →
      ∀ y, 0 ≤ y → y ≤ x →
        (∃ f, e.Executed (loadRegisters y) f) ∧
        ∀ f, e.Carried (loadRegisters y) f →
          (∀ k : Fin registerCount, (k : Int) ≤ y →
            f.machine.registers.get k = c.machine.registers.get k) ∧
          (∀ k : Fin registerCount, y < k →
            f.machine.registers.get k = e.machine.registers.get k) ∧
          (e.machine.index = c.machine.index ∧ f.machine.index = c.machine.index) ∧
          ∀ a : Nat, (a < c.machine.index.toNat ∨ c.machine.index.toNat + x < a) →
            e.machine.byteAt a = c.machine.byteAt a ∧ f.machine.byteAt a = c.machine.byteAt a := by
  refine ⟨exists_dumped hx hend, fun d trace e hdump hrun hkinds y hy hyx => ?_⟩
  have hfits : Fits .x y := ⟨hy, Int.le_trans hyx hx.2⟩
  obtain ⟨hmemory, hindex⟩ := memory_of_unstored hrun hkinds
  have hbyte (a : Nat) : e.machine.byteAt a = d.machine.byteAt a := by
    unfold Machine.byteAt
    rw [hmemory]
  rw [hdump.outcome.frame.index (by simp [kind])] at hindex
  have hindex : e.machine.index = c.machine.index := hindex
  have hroom : e.machine.index.toNat + y + 1 ≤ memorySize := by
    have hsize : memorySize = 4096 := rfl
    rw [hindex]
    omega
  refine ⟨exists_loaded hfits hroom, fun f hload => ⟨?_, ?_, ?_, ?_⟩⟩
  · intro k hk
    rw [hload.get_of_load hfits hroom hk, hbyte, hindex]
    exact hdump.byteAt_of_dump hx hend (by omega)
  · intro k hk
    exact hload.footprint.registers k (by simp only [Writes]; omega)
  · exact ⟨hindex, (hload.outcome.frame.index (by simp [kind])).trans hindex⟩
  · intro a ha
    have houtside : e.machine.byteAt a = c.machine.byteAt a :=
      (hbyte a).trans (hdump.footprint.memory a (by simp only [stored]; omega))
    refine ⟨houtside, Eq.trans ?_ houtside⟩
    unfold Machine.byteAt
    rw [hload.outcome.frame.memory (by simp [kind])]
    rfl

/-- Two registers at the very end of memory, of which one is overwritten in a
subroutine. -/
theorem registers_come_back_from_the_end_of_memory :
    ∃ c d e f : Console SilentKeypad Grid Splitting, ∃ trace,
      c.machine.index.toNat + 1 + 1 = 4096 ∧ c.Carried (dumpRegisters 1) d ∧
      Run Carried d trace e ∧ e.machine.reg 1 = 5 ∧ e.Carried (loadRegisters 1) f ∧
      f.machine.registers.get 0 = 7 ∧ f.machine.registers.get 1 = 9 := by
  let c := byHand [setConst 0 7, setConst 1 9, setIndex 0xFFE]
  let d := (c.execute (dumpRegisters 1)).2
  let called := (d.execute (call 0x300)).2
  let e := (called.execute (setConst 1 5)).2
  have hdump : c.Carried (dumpRegisters 1) d := .inr rfl
  have hcall : d.Carried (call 0x300) called := .inr rfl
  have hset : called.Carried (setConst 1 5) e := .inr rfl
  have hrun : Run Carried d _ e := .cons hcall (.cons hset (.nil e))
  have hkinds : Unstored [⟨d, call 0x300⟩, ⟨called, setConst 1 5⟩] := by
    simp [Unstored, kind]
  obtain ⟨-, hback⟩ := dumped_registers_come_back c (x := 1) (by decide) (by decide)
  obtain ⟨⟨f, hload⟩, hsame⟩ := hback d _ e hdump hrun hkinds 1 (by decide) (by decide)
  obtain ⟨hregisters, -⟩ := hsame f (.inr hload)
  exact ⟨c, d, e, f, _, by decide, hdump, hrun, rfl, .inr hload,
    hregisters 0 (by decide), hregisters 1 (by decide)⟩

end Console

end Chip8
