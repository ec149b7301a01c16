-- How far a machine gets that is stepped from power-on: the program counter
-- and the return addresses stay near memory, so their sums never wrap around.
import Chip8.Proofs.CallStack
import Chip8.Proofs.Run
namespace Chip8

/-! ## Return addresses -/

/-- A call stack that was used by steps only. Steps come from memory, so the
addresses behind them end with memory at the latest. -/
structure CallStack.Sound (s : CallStack) : Prop where
  bounded : s.Bounded
  used : ∀ k : Fin stackSize, (k : Int) < s.depth →
    2 ≤ (s.cell k).toNat ∧ (s.cell k).toNat ≤ memorySize
  free : ∀ k : Fin stackSize, s.depth ≤ k → s.cell k = 0

namespace CallStack

variable {s t : CallStack} {address : UInt16}

theorem sound_empty : empty.Sound := by
  refine ⟨bounded_empty, fun k hk => ?_, fun k _ => ?_⟩
  · simp only [empty] at hk
    omega
  · show (Vector.replicate stackSize (0 : UInt16))[(k : Nat)] = 0
    exact Vector.getElem_replicate _

theorem Sound.pushed (hs : s.Sound) (h : s.Pushed address t) (h2 : 2 ≤ address.toNat)
    (hle : address.toNat ≤ memorySize) : t.Sound := by
  obtain ⟨⟨h0, -⟩, hused, hfree⟩ := hs
  obtain ⟨hroom, hdepth, htop, hrest⟩ := h
  refine ⟨⟨by omega, by omega⟩, fun k hk => ?_, fun k hk => ?_⟩
  · by_cases hplace : (k : Int) = s.depth
    · rw [htop k hplace]
      exact ⟨h2, hle⟩
    · rw [hrest k hplace]
      exact hused k (by omega)
  · rw [hrest k (by omega)]
    exact hfree k (by omega)

theorem Sound.popped (hs : s.Sound) (h : s.Popped address t) :
    t.Sound ∧ address.toNat ≤ memorySize := by
  obtain ⟨⟨h0, h1⟩, hused, hfree⟩ := hs
  obtain ⟨hpos, hdepth, htop, hcleared, hrest⟩ := h
  refine ⟨⟨⟨by omega, by omega⟩, fun k hk => ?_, fun k hk => ?_⟩, ?_⟩
  · rw [hrest k (by omega)]
    exact hused k (by omega)
  · by_cases hplace : (k : Int) = t.depth
    · exact hcleared k hplace
    · rw [hrest k hplace]
      exact hfree k (by omega)
  · have hlt : t.depth.toNat < stackSize := by omega
    have hplace : ((⟨t.depth.toNat, hlt⟩ : Fin stackSize) : Int) = t.depth := by
      simp only
      omega
    rw [← htop _ hplace]
    exact (hused _ (by omega)).2

end CallStack

/-! ## The program counter -/

/-- An address operand has twelve bits. -/
theorem Instruction.address_fits {i : Instruction} {nnn : Int} (h : i.Legal)
    (hi : i.operands = [(.nnn, nnn)]) : 0 ≤ nnn ∧ nnn ≤ 0xFFF := by
  unfold Legal at h
  rw [hi] at h
  exact h _ List.mem_cons_self

namespace Machine

/-- A machine that was stepped from power-on. -/
structure Sound (m : Machine) : Prop where
  pc_le : m.pc.toNat ≤ 0x10FE
  stack : m.stack.Sound

theorem toNat_pc_advance {m : Machine} (h : m.pc.toNat + 2 < 0x10000) :
    m.advance.pc.toNat = m.pc.toNat + 2 := by
  have h2 : (2 : UInt16).toNat = 2 := rfl
  unfold advance
  rw [UInt16.toNat_add, h2, Nat.mod_eq_of_lt h]

/-- A number of 16 bits is itself as a program counter. -/
theorem toNat_toUInt16_lowWord {v : Int} (h0 : 0 ≤ v) (h : v < 0x10000) :
    ((lowWord v).toUInt16.toNat : Int) = v := by
  have hword : (lowWord v).toUInt16.toNat = lowWord v := Nat.mod_eq_of_lt (lowWord_lt v)
  rw [hword]
  exact lowWord_of_fits h0 h

/-- Registers hold bytes, so an offset leads one byte behind the last address
at most. -/
theorem toNat_jumpOffset {nnn : Int} (h : (Instruction.jumpOffset nnn).Legal) (v : UInt8) :
    ((lowWord (nnn + v.toNat)).toUInt16.toNat : Int) = nnn + v.toNat ∧
      nnn + v.toNat ≤ 0x10FE := by
  obtain ⟨h0, hnnn⟩ := Instruction.address_fits h rfl
  have hbyte := v.toNat_lt
  exact ⟨toNat_toUInt16_lowWord (by omega) (by omega), by omega⟩

/-- An instruction from memory keeps a machine sound. Memory ends far below
the bound, so only an offset gets close to it. -/
theorem sound_of_outcome {m m' : Machine} {i : Instruction} (hi : i.Legal)
    (h2 : 2 ≤ m.pc.toNat) (hle : m.pc.toNat ≤ memorySize) (hs : m.stack.Sound)
    (h : Outcome m i m') : m'.Sound := by
  have hsize : memorySize = 4096 := rfl
  cases h with
  | idle | registers | index | delay | sound | memory =>
    refine ⟨?_, hs⟩
    show m.pc.toNat ≤ 0x10FE
    omega
  | goto nnn =>
    obtain ⟨h0, hnnn⟩ := Instruction.address_fits hi rfl
    have hpc := toNat_toUInt16_lowWord h0 (by omega)
    refine ⟨?_, hs⟩
    show (lowWord nnn).toUInt16.toNat ≤ 0x10FE
    omega
  | jumpOffset nnn =>
    obtain ⟨hpc, hbound⟩ := toNat_jumpOffset hi (m.reg 0)
    refine ⟨?_, hs⟩
    show (lowWord (nnn + (m.reg 0).toNat)).toUInt16.toNat ≤ 0x10FE
    omega
  | call nnn hpush =>
    obtain ⟨h0, hnnn⟩ := Instruction.address_fits hi rfl
    have hpc := toNat_toUInt16_lowWord h0 (by omega)
    refine ⟨?_, hs.pushed (CallStack.pushed_of_push hs.bounded.1 hpush) h2 hle⟩
    show (lowWord nnn).toUInt16.toNat ≤ 0x10FE
    omega
  | @ret address _ hpop =>
    obtain ⟨hstack, haddress⟩ := hs.popped (CallStack.popped_of_pop hpop)
    refine ⟨?_, hstack⟩
    show address.toNat ≤ 0x10FE
    omega
  | skip hi condition =>
    cases condition with
    | false => exact ⟨by show m.pc.toNat ≤ 0x10FE; omega, hs⟩
    | true =>
      have hpc := toNat_pc_advance (m := m) (by omega)
      exact ⟨by show m.advance.pc.toNat ≤ 0x10FE; omega, hs⟩

end Machine

/-! ## Stepped runs -/

/-- Power-on with a program in memory. -/
theorem sound_loadBytes {κ σ ρ : Type} (devices : Devices κ σ ρ) (program : List UInt8) :
    ((Console.new devices).loadBytes program).machine.Sound := by
  refine ⟨?_, CallStack.sound_empty⟩
  show programStart.toUInt16.toNat ≤ 0x10FE
  decide

section
variable {κ σ ρ : Type} [Keypad κ] [Screen σ] [RandomSource ρ]

/-- A step fetches its instruction from inside memory. -/
theorem sound_of_stepped {c c' : Console κ σ ρ} {i : Instruction} (h : c.Stepped i c')
    (hc : c.machine.Sound) : c'.machine.Sound := by
  have hsize : memorySize = 4096 := rfl
  obtain ⟨hpc, hlegal⟩ := Machine.upcoming_eq_ok h.1
  -- the fetch bounds the program counter again, however far a jump led before
  have hbehind : c.machine.tick.advance.pc.toNat = c.machine.pc.toNat + 2 :=
    Machine.toNat_pc_advance (m := c.machine.tick) (by show c.machine.pc.toNat + 2 < _; omega)
  have hstack : c.machine.tick.advance.stack.Sound := hc.stack
  have houtcome := Console.Carried.outcome (.inl h)
  exact Machine.sound_of_outcome hlegal (by omega) (by omega) hstack houtcome

/-- A jump with an offset lands where the numbers say. -/
theorem pc_of_jumpOffset {c c' : Console κ σ ρ} {nnn : Int} (h : c.Stepped (.jumpOffset nnn) c') :
    (c'.machine.pc.toNat : Int) = nnn + (c.machine.reg 0).toNat := by
  obtain ⟨-, hlegal⟩ := Machine.upcoming_eq_ok h.1
  have houtcome := Console.Carried.outcome (.inl h)
  generalize c'.machine = m' at houtcome
  cases houtcome with
  | jumpOffset => exact (Machine.toNat_jumpOffset hlegal (c.machine.reg 0)).1
  | idle hi | skip hi | registers hi | index hi | memory hi => cases hi

/-- However long a program is stepped from power-on, whatever it writes over
itself and whatever the devices answer, the machine stays in its bounds: the
program counter, the call stack with the addresses in it, and the numbers in
memory, registers and timers. So neither the program counter nor an offset
added to an address wraps around. -/
theorem stepped_machine_stays_in_bounds {devices : Devices κ σ ρ} {program : List UInt8}
    {trace : List (Deed κ σ ρ)} {c : Console κ σ ρ}
    (h : Run Console.Stepped ((Console.new devices).loadBytes program) trace c) :
    (c.machine.memory.toList.length = 4096 ∧ ∀ b ∈ c.machine.memory.toList, b.toNat ≤ 255) ∧
    (c.machine.registers.toList.length = 16 ∧
      ∀ b ∈ c.machine.registers.toList, b.toNat ≤ 255) ∧
    c.machine.pc.toNat ≤ 0x10FE ∧
    (0 ≤ c.machine.stack.depth ∧ c.machine.stack.depth ≤ 256) ∧
    (∀ k : Fin stackSize, (k : Int) < c.machine.stack.depth →
      2 ≤ (c.machine.stack.cell k).toNat ∧ (c.machine.stack.cell k).toNat ≤ 0x1000) ∧
    (∀ k : Fin stackSize, c.machine.stack.depth ≤ k → c.machine.stack.cell k = 0) ∧
    c.machine.index.toNat ≤ 0xFFFF ∧ c.machine.delay.toNat ≤ 255 ∧ c.machine.sound.toNat ≤ 255 ∧
    c.machine.advance.pc.toNat = c.machine.pc.toNat + 2 ∧
    c.machine.advance.advance.pc.toNat = c.machine.pc.toNat + 4 ∧
    ∀ (nnn : Int) (c' : Console κ σ ρ), c.Stepped (.jumpOffset nnn) c' →
      (c'.machine.pc.toNat : Int) = nnn + (c.machine.reg 0).toNat := by
  obtain ⟨hpc, hbounded, hused, hfree⟩ := h.keeps (I := fun c => c.machine.Sound)
    (fun first hc => sound_of_stepped first hc) (sound_loadBytes devices program)
  have hbyte (b : UInt8) : b.toNat ≤ 255 := Nat.le_of_lt_succ b.toNat_lt
  have hbehind := Machine.toNat_pc_advance (m := c.machine) (by omega)
  have hskipped := Machine.toNat_pc_advance (m := c.machine.advance) (by omega)
  refine ⟨⟨Vector.length_toList, fun b _ => hbyte b⟩, ⟨Vector.length_toList, fun b _ => hbyte b⟩,
    hpc, hbounded, hused, hfree, ?_, hbyte _, hbyte _, hbehind, by omega,
    fun nnn c' hstep => pc_of_jumpOffset hstep⟩
  exact Nat.le_of_lt_succ c.machine.index.toNat_lt

/-- The bound of the program counter is the best one: `60FF BFFF` gets there. -/
theorem stepped_machine_reaches_its_bound :
    ∃ (trace : List (Deed _ _ _)) (c : Console SilentKeypad Grid Splitting),
      Run Console.Stepped ((Console.new .untouched).loadBytes [0x60, 0xFF, 0xBF, 0xFF]) trace c ∧
      trace.length = 2 ∧ c.machine.pc.toNat = 0x10FE ∧ c.machine.advance.pc.toNat = 0x1100 ∧
      c.machine.advance.advance.pc.toNat = 0x1102 := by
  let start := loaded [0x60, 0xFF, 0xBF, 0xFF]
  let set := (start.execute (.setConst 0 0xFF)).2
  let far := (set.execute (.jumpOffset 0xFFF)).2
  have hset : start.machine.upcoming = .ok (.setConst 0 0xFF) :=
    Machine.upcoming_load (k := 0) rfl rfl (by decide) (by decide) (by decide)
  have hjump : set.machine.upcoming = .ok (.jumpOffset 0xFFF) :=
    Machine.upcoming_load (k := 2) rfl rfl (by decide) (by decide) (by decide)
  have hfirst : start.Executed (.setConst 0 0xFF) set := rfl
  have hsecond : set.Executed (.jumpOffset 0xFFF) far := rfl
  have hrun := Run.cons (hfirst.stepped hset) (.cons (hsecond.stepped hjump) (.nil _))
  obtain ⟨-, -, -, -, -, -, -, -, -, hbehind, hskipped, -⟩ := stepped_machine_stays_in_bounds hrun
  have hpc : far.machine.pc.toNat = 0x10FE := by decide
  exact ⟨_, far, hrun, rfl, hpc, by omega, by omega⟩

end

end Chip8
