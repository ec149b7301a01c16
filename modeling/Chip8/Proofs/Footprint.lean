-- The footprint of an instruction: what it may change, by kind of instruction,
-- and that it leaves everything else alone.
import Chip8.Keypad.Device
import Chip8.Proofs.Bounds
namespace Chip8

open Instruction

/-! ## What an instruction may change -/

namespace Instruction

/-- How many bytes from the index on an instruction stores. -/
def stored : Instruction → Int
  | storeDigits _ => 3
  | dumpRegisters x => x + 1
  | _ => 0

/-- Whether an instruction may change a register. -/
def Writes (i : Instruction) (k : Fin registerCount) : Prop :=
  match i with
  | setConst x _ | addConst x _ | setReg x _ | or x _ | and x _ | xor x _ | rand x _ | getDelay x
  | waitKey x => (k : Int) = x
  | addReg x _ | subReg x _ | subRegReversed x _ | shiftRight x | shiftLeft x =>
    (k : Int) = x ∨ k = flagRegister
  | draw .. => k = flagRegister
  | loadRegisters x => (k : Int) ≤ x
  | _ => False

/-- Where an instruction may lead a machine. -/
def Leads (i : Instruction) (m : Machine) (pc : Nat) : Prop :=
  match i with
  | goto nnn | call nnn => (pc : Int) = nnn
  | jumpOffset nnn => (pc : Int) = nnn + (m.reg 0).toNat
  | ret => 0 < m.stack.depth ∧ pc = (m.stack.cellAt (m.stack.depth - 1).toNat).toNat
  | skipEqConst .. | skipNeqConst .. | skipEqReg .. | skipNeqReg .. | skipKeyPressed _
  | skipKeyNotPressed _ =>
    pc = (m.pc.toNat + 2) % 0x10000 ∨ pc = (m.pc.toNat + 4) % 0x10000
  | _ => pc = (m.pc.toNat + 2) % 0x10000

/-- What a timer stands at after an instruction. -/
def timerAfter (i : Instruction) (m : Machine) (t : Timer) : Nat :=
  match t.source? i with
  | some x => (m.reg x).toNat
  | none => (m.timer t).toNat - 1

/-- The keypad after an instruction. A wait takes a key, a test looks at one. -/
def keypadAfter {κ : Type} [Keypad κ] (i : Instruction) (keypad : κ) : κ :=
  match i with
  | waitKey _ => (Keypad.wait keypad).2
  | skipKeyPressed _ | skipKeyNotPressed _ => (Keypad.peek keypad).2
  | _ => keypad

/-- Whether an instruction tests for a key. -/
def testsKey : Instruction → Bool
  | skipKeyPressed _ | skipKeyNotPressed _ => true
  | _ => false

/-- The random numbers after an instruction. -/
def randomAfter {ρ : Type} [RandomSource ρ] (i : Instruction) (random : ρ) : ρ :=
  match i with
  | rand .. => (RandomSource.next random).2
  | _ => random

end Instruction

/-! ## Devices -/

section
variable {κ σ ρ : Type}

theorem devices_takeKey [Keypad κ] (m : Machine) (x : Int) (d : Devices κ σ ρ) :
    (takeKey m x d).2 = { d with keypad := (Keypad.wait d.keypad).2 } := by
  unfold takeKey
  simp only
  split
  · rfl
  · split <;> rfl

variable [Screen σ]

theorem devices_drawSprite (m : Machine) (x y n : Int) (d : Devices κ σ ρ) :
    ∃ screen, (drawSprite m x y n d).2 = { d with screen } := by
  unfold drawSprite
  split
  · exact ⟨d.screen, rfl⟩
  · exact ⟨_, rfl⟩

variable [Keypad κ] [RandomSource ρ] (i : Instruction) (m : Machine) (d : Devices κ σ ρ)

theorem keypad_effect : (effect i m d).2.keypad = i.keypadAfter d.keypad := by
  cases i
  case draw x y n =>
    obtain ⟨screen, hdevices⟩ := devices_drawSprite m x y n d
    exact (congrArg Devices.keypad hdevices).trans rfl
  case waitKey x => exact (congrArg Devices.keypad (devices_takeKey m x d)).trans rfl
  all_goals rfl

theorem random_effect : (effect i m d).2.random = i.randomAfter d.random := by
  cases i
  case draw x y n =>
    obtain ⟨screen, hdevices⟩ := devices_drawSprite m x y n d
    exact (congrArg Devices.random hdevices).trans rfl
  case waitKey x => exact (congrArg Devices.random (devices_takeKey m x d)).trans rfl
  all_goals rfl

theorem screen_effect (hclear : i ≠ clearScreen) (hdraw : ∀ x y n, i ≠ draw x y n) :
    (effect i m d).2.screen = d.screen := by
  cases i
  case clearScreen => exact absurd rfl hclear
  case draw x y n => exact absurd rfl (hdraw x y n)
  case waitKey x => exact (congrArg Devices.screen (devices_takeKey m x d)).trans rfl
  all_goals rfl

end

/-! ## Registers and memory -/

namespace Machine

variable {m : Machine}

theorem get_setReg_ne {x k : Fin registerCount} {v : UInt8} (h : k ≠ x) :
    (m.setReg x v).registers.get k = m.registers.get k :=
  Vector.getElem_set_ne x.isLt k.isLt fun e => h (Fin.ext e.symm)

theorem get_compute {op : Arithmetic} {x : Int} {y : Option Int} {k : Fin registerCount}
    (hx : k ≠ register x) (hflag : k ≠ flagRegister ∨ ∀ a b, (op.apply a b).flag = none) :
    (m.compute op x y).registers.get k = m.registers.get k := by
  unfold compute
  simp only
  split
  · rename_i flag hsome
    rcases hflag with hk | hnone
    · rw [get_setReg_ne hk, get_setReg_ne hx]
    · rw [hnone] at hsome
      cases hsome
  · exact get_setReg_ne hx

theorem getElem?_bytesAt (m : Machine) (address length k : Nat) :
    (m.bytesAt address length)[k]? =
      if k < length then some (m.byteAt (address + k)) else none := by
  unfold bytesAt
  rw [List.getElem?_map]
  by_cases h : k < length
  · rw [List.getElem?_range h, if_pos h]
    rfl
  · rw [List.getElem?_eq_none (by simpa using h), if_neg h]
    rfl

/-- Bytes that are written change no byte before or behind them. -/
theorem byteAt_writeBytes_of_outside {address a : Nat} {bytes : List UInt8}
    (h : a < address ∨ address + bytes.length ≤ a) :
    (m.writeBytes address bytes).byteAt a = m.byteAt a := by
  by_cases ha : a < memorySize
  · rw [byteAt_writeBytes _ _ _ _ ha]
    split
    · rw [List.getElem?_eq_none (by omega)]
      rfl
    · rfl
  · unfold byteAt
    rw [Vector.getElem?_eq_none (by omega), Vector.getElem?_eq_none (by omega)]

end Machine

section
variable {κ σ ρ : Type} [Keypad κ] [Screen σ] [RandomSource ρ]
variable {m m' : Machine} {d d' : Devices κ σ ρ} {i : Instruction}

theorem ne_register {x : Int} {k : Fin registerCount} (hx : Fits .x x) (hk : (k : Int) ≠ x) :
    k ≠ Machine.register x := by
  rintro rfl
  exact hk (Machine.val_register hx)

/-- Registers that an instruction does not write keep their values. -/
theorem get_registers_of_effect (hi : i.Legal) (h : effect i m d = (.ok m', d'))
    {k : Fin registerCount} (hk : ¬ i.Writes k) : m'.registers.get k = m.registers.get k := by
  by_cases hkind : i.kind = .registers
  case neg => rw [(outcome_of_effect h).frame.registers hkind]
  -- the outcome does not tell which register was written, so the effect is opened
  cases i
  case draw x y n =>
    obtain ⟨-, drawn, -, rfl, -⟩ := drawSprite_eq_ok_iff.1 h
    exact Machine.get_setReg_ne hk
  case waitKey x =>
    obtain ⟨v, rfl⟩ := takeKey_eq_ok h
    exact Machine.get_setReg_ne (ne_register (hi _ List.mem_cons_self) hk)
  case loadRegisters x =>
    simp only [effect, Prod.mk.injEq] at h
    obtain ⟨-, -, rfl⟩ := map_eq_ok h.1
    have hcount : (Machine.countUpTo x : Int) = x + 1 :=
      Machine.countUpTo_of_fits (hi _ List.mem_cons_self)
    have hlt : x < k := Int.not_le.1 hk
    refine (Machine.getElem_overlay _ _ _ _ k.isLt).trans ?_
    rw [if_pos (Nat.zero_le _), List.getElem?_eq_none (by simp [Machine.bytesAt]; omega)]
    rfl
  case setConst x _ | addConst x _ | rand x _ | getDelay x =>
    cases h
    exact Machine.get_setReg_ne (ne_register (hi _ List.mem_cons_self) hk)
  case setReg x _ | or x _ | and x _ | xor x _ =>
    cases h
    have hx := ne_register (hi _ List.mem_cons_self) hk
    exact Machine.get_compute hx (.inr fun a b => rfl)
  case addReg x _ | subReg x _ | subRegReversed x _ | shiftRight x | shiftLeft x =>
    cases h
    obtain ⟨hx, hflag⟩ := not_or.1 hk
    exact Machine.get_compute (ne_register (hi _ List.mem_cons_self) hx) (.inl hflag)
  all_goals cases hkind

/-- Bytes that an instruction does not store keep their values. -/
theorem byteAt_of_effect (hi : i.Legal) (h : effect i m d = (.ok m', d')) {a : Nat}
    (ha : a < m.index.toNat ∨ m.index.toNat + i.stored ≤ a) : m'.byteAt a = m.byteAt a := by
  by_cases hkind : i.kind = .memory
  case neg =>
    unfold Machine.byteAt
    rw [(outcome_of_effect h).frame.memory hkind]
  -- two instructions are left, and both write from the index on
  cases i
  case storeDigits x =>
    simp only [effect, Prod.mk.injEq] at h
    obtain ⟨-, -, rfl⟩ := map_eq_ok h.1
    simp only [stored] at ha
    exact Machine.byteAt_writeBytes_of_outside (by simp [Machine.digits]; omega)
  case dumpRegisters x =>
    simp only [effect, Prod.mk.injEq] at h
    obtain ⟨-, -, rfl⟩ := map_eq_ok h.1
    have hcount : (Machine.countUpTo x : Int) = x + 1 :=
      Machine.countUpTo_of_fits (hi _ List.mem_cons_self)
    simp only [stored] at ha
    exact Machine.byteAt_writeBytes_of_outside (by simp [Machine.firstRegisters]; omega)
  all_goals cases hkind

end

/-! ## Program counter and timers -/

theorem CallStack.pop_eq_ok {s t : CallStack} {address : UInt16} (h : s.pop = .ok (address, t)) :
    0 < s.depth ∧ address = s.cellAt (s.depth - 1).toNat := by
  unfold pop at h
  split at h
  · rename_i hused
    simp only at h
    split at h
    · cases h
      exact ⟨hused, rfl⟩
    · simp at h
  · simp at h

namespace Outcome

variable {m m' : Machine} {i : Instruction}

/-- Ticks and the move of the program counter come before the instruction. -/
theorem leads (hi : i.Legal) (h : Outcome m.tick.advance i m') : i.Leads m m'.pc.toNat := by
  have hbehind : m.tick.advance.pc.toNat = (m.pc.toNat + 2) % 0x10000 := UInt16.toNat_add m.pc 2
  cases h with
  | goto nnn | call nnn =>
    obtain ⟨h0, h1⟩ := address_fits hi rfl
    exact Machine.toNat_toUInt16_lowWord h0 (by omega)
  | jumpOffset nnn => exact (Machine.toNat_jumpOffset hi (m.reg 0)).1
  | ret hpop =>
    obtain ⟨hused, rfl⟩ := CallStack.pop_eq_ok hpop
    exact ⟨hused, rfl⟩
  | delay | sound => exact hbehind
  -- of the other instructions, those of a wrong kind drop out
  | idle hkind | registers hkind | index hkind | memory hkind =>
    cases i
    all_goals first | exact hbehind | cases hkind
  | skip hkind condition =>
    have hskipped : m.tick.advance.advance.pc.toNat = (m.pc.toNat + 4) % 0x10000 := by
      have h2 : m.tick.advance.advance.pc.toNat = (m.tick.advance.pc.toNat + 2) % 0x10000 :=
        UInt16.toNat_add m.tick.advance.pc 2
      omega
    have hpc : (m.tick.advance.skipIf condition).pc.toNat = (m.pc.toNat + 2) % 0x10000 ∨
        (m.tick.advance.skipIf condition).pc.toNat = (m.pc.toNat + 4) % 0x10000 := by
      cases condition
      · exact .inl hbehind
      · exact .inr hskipped
    cases i
    all_goals first | exact hpc | cases hkind

end Outcome

/-- The timers have ticked when an instruction takes effect. -/
theorem toNat_timer_of_outcome {m m' : Machine} {i : Instruction}
    (h : Outcome m.tick.advance i m') (t : Timer) : (m'.timer t).toNat = i.timerAfter m t := by
  rw [h.timer t]
  unfold Instruction.timerAfter
  cases t.source? i with
  | some x => rfl
  | none => exact Machine.toNat_timer_tick m t

/-! ## Keys -/

theorem filter_dropWhile_not {α : Type} (p : α → Bool) (l : List α) :
    (l.dropWhile fun a => !p a).filter p = l.filter p := by
  induction l with
  | nil => rfl
  | cons a rest ih =>
    by_cases h : p a
    · simp [h]
    · simpa [h] using ih

namespace KeyBuffer

variable {κ τ : Type} [Time τ]

/-- The keypresses that a wait can still give. -/
def fresh (b : KeyBuffer κ τ) (now : τ) : List (Keypress κ τ) :=
  b.presses.filter fun p => b.Fresh now p

/-- Only stale keys are dropped from the front. -/
theorem fresh_cleaned (b : KeyBuffer κ τ) (now : τ) : (b.cleaned now).fresh now = b.fresh now := by
  simp only [fresh, cleaned, decide_not]
  exact filter_dropWhile_not _ b.presses

end KeyBuffer

def Keyboard.freshKeys {κ τ : Type} [Time τ] (k : Keyboard κ τ) : List (Keypress κ τ) :=
  k.buffer.fresh k.now

section
variable {κ τ : Type} [KeyCode κ] [Time τ] {i : Instruction}

/-- Nobody but a wait takes a key from the buffer. -/
theorem freshKeys_keypadAfter (hi : ∀ x, i ≠ waitKey x) (b : BufferedKeypad κ τ) :
    (i.keypadAfter b).keyboard.freshKeys = b.keyboard.freshKeys := by
  cases i
  case waitKey x => exact absurd rfl (hi x)
  case skipKeyPressed | skipKeyNotPressed => exact KeyBuffer.fresh_cleaned _ _
  all_goals rfl

/-- A test for a key handles the events of the window first, and these may
bring keys. -/
theorem freshKeys_keypadAfter_window (hi : ∀ x, i ≠ waitKey x) (w : WindowKeypad κ τ) :
    (i.keypadAfter w).keyboard.freshKeys =
      (if i.testsKey then WindowKeypad.pump w.keyboard else w.keyboard).freshKeys := by
  cases i
  case waitKey x => exact absurd rfl (hi x)
  case skipKeyPressed | skipKeyNotPressed => exact KeyBuffer.fresh_cleaned _ _
  all_goals rfl

end

/-! ## The footprint -/

namespace Console

/-- What an instruction may change of a console, and what it leaves alone. -/
structure Footprint {κ σ ρ : Type} [Keypad κ] [RandomSource ρ] (c : Console κ σ ρ)
    (i : Instruction) (c' : Console κ σ ρ) : Prop where
  memory : ∀ a, (a < c.machine.index.toNat ∨ c.machine.index.toNat + i.stored ≤ a) →
    c'.machine.byteAt a = c.machine.byteAt a
  stack : i ≠ ret → (∀ nnn, i ≠ call nnn) → c'.machine.stack = c.machine.stack
  index : (∀ nnn, i ≠ setIndex nnn) → (∀ x, i ≠ addToIndex x) → (∀ x, i ≠ setIndexToGlyph x) →
    c'.machine.index = c.machine.index
  timer : ∀ t, (c'.machine.timer t).toNat = i.timerAfter c.machine t
  registers : ∀ k : Fin registerCount, ¬ i.Writes k →
    c'.machine.registers.get k = c.machine.registers.get k
  pc : i.Leads c.machine c'.machine.pc.toNat
  screen : i ≠ clearScreen → (∀ x y n, i ≠ draw x y n) → c'.devices.screen = c.devices.screen
  random : c'.devices.random = i.randomAfter c.devices.random
  keypad : c'.devices.keypad = i.keypadAfter c.devices.keypad

variable {κ σ ρ : Type} [Keypad κ] [Screen σ] [RandomSource ρ]

theorem Carried.footprint {c c' : Console κ σ ρ} {i : Instruction} (h : c.Carried i c') :
    c.Footprint i c' := by
  obtain ⟨hlegal, heffect⟩ := h.executed.perform
  have houtcome := h.outcome
  have hdevices := congrArg Prod.snd heffect
  refine ⟨fun a ha => byteAt_of_effect hlegal heffect ha,
    fun hret hcall => houtcome.frame.stack ?_ ?_,
    fun hset hadd hglyph => houtcome.frame.index ?_, toNat_timer_of_outcome houtcome,
    fun k hk => get_registers_of_effect hlegal heffect hk,
    houtcome.leads hlegal, fun hclear hdraw => ?_, ?_, ?_⟩
  · intro hkind
    cases i
    case call nnn => exact hcall nnn rfl
    all_goals cases hkind
  · intro hkind
    cases i
    case ret => exact hret rfl
    all_goals cases hkind
  · intro hkind
    cases i
    case setIndex nnn => exact hset nnn rfl
    case addToIndex x => exact hadd x rfl
    case setIndexToGlyph x => exact hglyph x rfl
    all_goals cases hkind
  · exact (congrArg Devices.screen hdevices).symm.trans (screen_effect i _ _ hclear hdraw)
  · exact (congrArg Devices.random hdevices).symm.trans (random_effect i _ _)
  · exact (congrArg Devices.keypad hdevices).symm.trans (keypad_effect i _ _)

/-- Every instruction that is carried out keeps to its footprint. Of the keys
in a buffer, no fresh one is consumed but by a wait for a key; a window puts
the keys into the buffer that were pressed before a test. -/
theorem carried_instruction_keeps_to_its_footprint (i : Instruction) :
    (∀ {η : Type} [Keypad η] (c c' : Console η σ ρ), c.Carried i c' → c.Footprint i c') ∧
    ((∀ x, i ≠ waitKey x) → ∀ {κ τ : Type} [KeyCode κ] [Time τ],
      (∀ c c' : Console (BufferedKeypad κ τ) σ ρ, c.Carried i c' →
        c'.devices.keypad.keyboard.freshKeys = c.devices.keypad.keyboard.freshKeys) ∧
      ∀ c c' : Console (WindowKeypad κ τ) σ ρ, c.Carried i c' →
        c'.devices.keypad.keyboard.freshKeys =
          (if i.testsKey then WindowKeypad.pump c.devices.keypad.keyboard
            else c.devices.keypad.keyboard).freshKeys) := by
  refine ⟨fun c c' h => h.footprint, fun hi => ⟨fun c c' h => ?_, fun c c' h => ?_⟩⟩
  · rw [h.footprint.keypad]
    exact freshKeys_keypadAfter hi _
  · rw [h.footprint.keypad]
    exact freshKeys_keypadAfter_window hi _

/-- The byte behind three digits stays. So does a key in the buffer that is
tested for, and a window adds the key that was pressed. -/
theorem carried_instructions_keep_what_is_not_theirs :
    (∃ c', (byHand [setConst 0 255, setIndex 0x300]).Carried (storeDigits 0) c' ∧
      c'.machine.byteAt 0x303 = (byHand [setConst 0 255, setIndex 0x300]).machine.byteAt 0x303) ∧
    (∃ c c' : Console (BufferedKeypad Int Rat) Grid Splitting,
      c.Carried (skipKeyPressed 0) c' ∧ c'.devices.keypad.keyboard.freshKeys = [⟨5, 0⟩]) ∧
    ∃ c c' : Console (WindowKeypad Int Rat) Grid Splitting, c.Carried (skipKeyPressed 0) c' ∧
      c'.devices.keypad.keyboard.freshKeys = [⟨5, 0⟩, ⟨7, 0⟩] := by
  let keyboard : Keyboard Int Rat :=
    { Keyboard.idle 0 ⟨1, none, [⟨5, 0⟩]⟩ with inbox := [.keyDown 55] }
  have hfresh : keyboard.freshKeys = [⟨5, 0⟩] := by decide +kernel
  have hpumped : (WindowKeypad.pump keyboard).freshKeys = [⟨5, 0⟩, ⟨7, 0⟩] := by decide +kernel
  let c : Console (BufferedKeypad Int Rat) Grid Splitting :=
    Console.new ⟨⟨keyboard, true, none⟩, .standard, ⟨⟨0, 0⟩⟩⟩
  let w : Console (WindowKeypad Int Rat) Grid Splitting :=
    Console.new ⟨⟨keyboard, none⟩, .standard, ⟨⟨0, 0⟩⟩⟩
  have hc : c.Carried (skipKeyPressed 0) (c.execute (skipKeyPressed 0)).2 := .inr rfl
  have hw : w.Carried (skipKeyPressed 0) (w.execute (skipKeyPressed 0)).2 := .inr rfl
  let s := byHand [setConst 0 255, setIndex 0x300]
  have hs : s.Carried (storeDigits 0) (s.execute (storeDigits 0)).2 := .inr rfl
  have hindex : s.machine.index.toNat = 0x300 := by decide
  have hstored := (carried_instruction_keeps_to_its_footprint (storeDigits 0)).1 _ _ hs
  have hbuffered :=
    ((carried_instruction_keeps_to_its_footprint (skipKeyPressed 0)).2 nofun).1 _ _ hc
  have hwindow := ((carried_instruction_keeps_to_its_footprint (skipKeyPressed 0)).2 nofun).2 _ _ hw
  exact ⟨⟨_, hs, hstored.memory 0x303 (.inr (by rw [hindex]; decide))⟩,
    ⟨c, _, hc, hbuffered.trans hfresh⟩, ⟨w, _, hw, hwindow.trans hpumped⟩⟩

end Console

end Chip8
