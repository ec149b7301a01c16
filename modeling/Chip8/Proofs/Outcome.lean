-- What an instruction can make of a machine. Each instruction that is carried
-- out acts on one part of it only, and everything that later modules say of
-- cycles goes through the cases of `Outcome`.
import Chip8.Cycle
namespace Chip8

/-! ## Kinds of instructions -/

/-- The part of the machine that an instruction acts on. -/
inductive Instruction.Kind where
  /-- The devices at most. -/
  | idle
  | jump
  | call
  | ret
  | skip
  | registers
  | index
  | delay
  | sound
  | memory
deriving DecidableEq

namespace Instruction

def kind : Instruction → Kind
  | sysCall _ | clearScreen => .idle
  | goto _ | jumpOffset _ => .jump
  | call _ => .call
  | ret => .ret
  | skipEqConst .. | skipNeqConst .. | skipEqReg .. | skipNeqReg .. | skipKeyPressed _
  | skipKeyNotPressed _ => .skip
  | setConst .. | addConst .. | setReg .. | or .. | and .. | xor .. | addReg .. | subReg ..
  | shiftRight _ | subRegReversed .. | shiftLeft _ | rand .. | draw .. | getDelay _ | waitKey _
  | loadRegisters _ => .registers
  | setIndex _ | addToIndex _ | setIndexToGlyph _ => .index
  | setDelay _ => .delay
  | setSound _ => .sound
  | storeDigits _ | dumpRegisters _ => .memory

end Instruction

/-- One of the two timers. -/
inductive Timer where
  | delay
  | sound
deriving DecidableEq

/-- The operand of the register that an instruction puts into a timer, if it does. -/
def Timer.source? : Timer → Instruction → Option Int
  | .delay, .setDelay x => some x
  | .sound, .setSound x => some x
  | _, _ => none

open Instruction Machine

/-- What a timer stands at. -/
def Machine.timer (m : Machine) : Timer → UInt8
  | .delay => m.delay
  | .sound => m.sound

theorem Machine.toNat_timer_tick (m : Machine) (t : Timer) :
    (m.tick.timer t).toNat = (m.timer t).toNat - 1 := by
  cases t
  · exact toNat_ticked m.delay
  · exact toNat_ticked m.sound

/-- A legal operand names the register of its number. -/
theorem Machine.val_register {x : Int} (h : Fits .x x) : ((register x).val : Int) = x := by
  obtain ⟨h0, h1⟩ := h
  simp only [Operand.limit] at h1
  show ((x.toNat % 16 : Nat) : Int) = x
  omega

/-- The number of registers up to a legal operand. -/
theorem Machine.countUpTo_of_fits {x : Int} (h : Fits .x x) : (countUpTo x : Int) = x + 1 := by
  unfold countUpTo
  rw [Int.natCast_add, val_register h]
  rfl

theorem Machine.checkAtIndex_eq_ok_iff {m : Machine} {length a : Int} :
    m.checkAtIndex length = .ok a ↔
      m.index.toNat + length ≤ memorySize ∧ a = m.index.toNat := by
  have h0 : (0 : Int) ≤ m.index.toNat := Int.natCast_nonneg _
  unfold checkAtIndex
  rw [checkRange_eq_ok_iff]
  simp only [h0, true_and]

/-- What an instruction can make of a machine whose program counter is already
behind it. -/
inductive Outcome (m : Machine) : Instruction → Machine → Prop where
  | idle {i : Instruction} (hi : i.kind = .idle) : Outcome m i m
  | goto (nnn : Int) : Outcome m (goto nnn) { m with pc := (lowWord nnn).toUInt16 }
  | jumpOffset (nnn : Int) :
    Outcome m (jumpOffset nnn) { m with pc := (lowWord (nnn + (m.reg 0).toNat)).toUInt16 }
  | call (nnn : Int) {stack : CallStack} (h : m.stack.push m.pc = .ok stack) :
    Outcome m (call nnn) { m with stack, pc := (lowWord nnn).toUInt16 }
  | ret {address : UInt16} {stack : CallStack} (h : m.stack.pop = .ok (address, stack)) :
    Outcome m ret { m with stack, pc := address }
  | skip {i : Instruction} (hi : i.kind = .skip) (condition : Bool) :
    Outcome m i (m.skipIf condition)
  | registers {i : Instruction} (hi : i.kind = .registers)
    (registers : Vector UInt8 registerCount) : Outcome m i { m with registers }
  | index {i : Instruction} (hi : i.kind = .index) (index : UInt16) : Outcome m i { m with index }
  | delay (x : Int) : Outcome m (setDelay x) { m with delay := m.reg x }
  | sound (x : Int) : Outcome m (setSound x) { m with sound := m.reg x }
  | memory {i : Instruction} (hi : i.kind = .memory) (bytes : List UInt8) :
    Outcome m i (m.writeBytes m.index.toNat bytes)

/-! ## Every effect is such an outcome -/

theorem outcome_compute {i : Instruction} (hi : i.kind = .registers) (m : Machine)
    (op : Arithmetic) (x : Int) (y : Option Int) : Outcome m i (m.compute op x y) := by
  unfold Machine.compute
  simp only
  split <;> exact .registers hi _

/-- A key that was taken is in a register. -/
theorem takeKey_eq_ok {κ σ ρ : Type} [Keypad κ] {m m' : Machine} {d d' : Devices κ σ ρ} {x : Int}
    (h : takeKey m x d = (.ok m', d')) : ∃ v, m' = m.setReg (register x) v := by
  unfold takeKey at h
  split at h
  simp only at h
  split at h
  · simp at h
  · split at h
    · cases h
      exact ⟨_, rfl⟩
    · simp at h

/-- A sprite that was drawn lay in memory. Its pixels are flipped, and the flag
tells of a collision. -/
theorem drawSprite_eq_ok_iff {κ σ ρ : Type} [Screen σ] {m m' : Machine} {d d' : Devices κ σ ρ}
    {x y n : Int} :
    drawSprite m x y n d = (.ok m', d') ↔
      m.index.toNat + n ≤ memorySize ∧ ∃ drawn,
        blit d.screen (spriteCells (m.reg x).toNat (m.reg y).toNat
          (m.bytesAt m.index.toNat n.toNat)) = drawn ∧
        m' = m.setReg flagRegister (if drawn.2 then 1 else 0) ∧
        d' = { d with screen := drawn.1 } := by
  unfold drawSprite
  cases hrange : m.checkAtIndex n with
  | error f =>
    have hout : ¬ (m.index.toNat : Int) + n ≤ memorySize := fun hin => by
      rw [checkAtIndex_eq_ok_iff.2 ⟨hin, rfl⟩] at hrange
      cases hrange
    simp only [hout, Prod.mk.injEq, reduceCtorEq, false_and]
  | ok address =>
    have hin := (checkAtIndex_eq_ok_iff.1 hrange).1
    simp only [hin, true_and, Prod.mk.injEq, Except.ok.injEq, exists_eq_left']
    constructor
    · rintro ⟨rfl, rfl⟩
      exact ⟨rfl, rfl⟩
    · rintro ⟨rfl, rfl⟩
      exact ⟨rfl, rfl⟩

theorem map_eq_ok {ε α β : Type} {a : Except ε α} {f : α → β} {b : β} (h : a.map f = .ok b) :
    ∃ v, a = .ok v ∧ f v = b := by
  cases a with
  | error => simp [Except.map] at h
  | ok v => exact ⟨v, rfl, by simpa [Except.map] using h⟩

theorem bind_eq_ok_iff {ε α β : Type} {a : Except ε α} {f : α → Except ε β} {b : β} :
    (a >>= f) = .ok b ↔ ∃ v, a = .ok v ∧ f v = .ok b := by
  cases a with
  | error => exact iff_of_false nofun nofun
  | ok v => exact ⟨fun h => ⟨v, rfl, h⟩, fun ⟨_, hv, h⟩ => Except.ok.inj hv ▸ h⟩

/-- Whatever an instruction makes of a machine is one of its outcomes. -/
theorem outcome_of_effect {κ σ ρ : Type} [Keypad κ] [Screen σ] [RandomSource ρ] {m m' : Machine}
    {d d' : Devices κ σ ρ} {i : Instruction} (h : effect i m d = (.ok m', d')) :
    Outcome m i m' := by
  cases i
  case call nnn =>
    simp only [effect, Prod.mk.injEq] at h
    obtain ⟨stack, hpush, rfl⟩ := map_eq_ok h.1
    exact .call nnn hpush
  case ret =>
    simp only [effect, Prod.mk.injEq] at h
    obtain ⟨⟨address, stack⟩, hpop, rfl⟩ := map_eq_ok h.1
    exact .ret hpop
  case draw x y n =>
    obtain ⟨-, drawn, -, rfl, -⟩ := drawSprite_eq_ok_iff.1 h
    exact .registers rfl _
  case waitKey x =>
    obtain ⟨v, rfl⟩ := takeKey_eq_ok h
    exact .registers rfl _
  case storeDigits x =>
    simp only [effect, Prod.mk.injEq] at h
    obtain ⟨-, -, rfl⟩ := map_eq_ok h.1
    exact .memory rfl _
  case dumpRegisters x =>
    simp only [effect, Prod.mk.injEq] at h
    obtain ⟨-, -, rfl⟩ := map_eq_ok h.1
    exact .memory rfl _
  case loadRegisters x =>
    simp only [effect, Prod.mk.injEq] at h
    obtain ⟨-, -, rfl⟩ := map_eq_ok h.1
    exact .registers rfl _
  -- The others cannot fail, and their machine stands in the definition.
  all_goals cases h
  case sysCall | clearScreen => exact .idle rfl
  case goto nnn => exact .goto nnn
  case jumpOffset nnn => exact .jumpOffset nnn
  case skipEqConst | skipNeqConst | skipEqReg | skipNeqReg | skipKeyPressed | skipKeyNotPressed =>
    exact .skip rfl _
  case setReg | or | and | xor | addReg | subReg | shiftRight | subRegReversed | shiftLeft =>
    exact outcome_compute rfl _ _ _ _
  case setConst | addConst | rand | getDelay => exact .registers rfl _
  case setIndex | addToIndex | setIndexToGlyph => exact .index rfl _
  case setDelay x => exact .delay x
  case setSound x => exact .sound x

/-! ## What outcomes leave alone -/

/-- Parts of a machine that instructions of other kinds leave alone. -/
structure Frame (m : Machine) (kind : Kind) (m' : Machine) : Prop where
  registers : kind ≠ .registers → m'.registers = m.registers
  memory : kind ≠ .memory → m'.memory = m.memory
  index : kind ≠ .index → m'.index = m.index
  stack : kind ≠ .call → kind ≠ .ret → m'.stack = m.stack

theorem Frame.of_pc (m : Machine) (kind : Kind) (pc : UInt16) : Frame m kind { m with pc } := by
  constructor <;> intros <;> rfl

theorem Outcome.frame {m m' : Machine} {i : Instruction} (h : Outcome m i m') :
    Frame m i.kind m' := by
  cases h with
  | idle => exact .of_pc m _ m.pc
  | goto | jumpOffset => exact .of_pc m _ _
  | skip _ condition =>
    cases condition
    · exact .of_pc m _ m.pc
    · exact .of_pc m _ _
  | call | ret | delay | sound => constructor <;> simp [kind]
  | registers hi | index hi => constructor <;> simp [hi]
  | memory hi => constructor <;> simp [hi, writeBytes]

/-- A timer that an instruction does not set stays as it is. -/
theorem Outcome.timer {m m' : Machine} {i : Instruction} (h : Outcome m i m') (t : Timer) :
    m'.timer t = ((t.source? i).map m.reg).getD (m.timer t) := by
  cases h with
  | goto | jumpOffset | call | ret | delay | sound => cases t <;> rfl
  | skip hi condition => cases i <;> cases hi <;> cases condition <;> cases t <;> rfl
  | idle hi | registers hi | index hi | memory hi => cases i <;> cases hi <;> cases t <;> rfl

/-- Only calls and returns touch the call stack. -/
theorem Outcome.stack_cases {m m' : Machine} {i : Instruction} (h : Outcome m i m') :
    (i.kind = .call ∧ m.stack.push m.pc = .ok m'.stack) ∨
    (i.kind = .ret ∧ m.stack.pop = .ok (m'.pc, m'.stack)) ∨
    (i.kind ≠ .call ∧ i.kind ≠ .ret ∧ m'.stack = m.stack) := by
  cases h with
  | call nnn hpush => exact .inl ⟨rfl, hpush⟩
  | ret hpop => exact .inr (.inl ⟨rfl, hpop⟩)
  | goto | jumpOffset | delay | sound => exact .inr (.inr ⟨nofun, nofun, rfl⟩)
  | idle hi | registers hi | index hi | memory hi =>
    refine .inr (.inr ⟨?_, ?_, rfl⟩) <;> simp [hi]
  | skip hi condition =>
    refine .inr (.inr ⟨?_, ?_, ?_⟩)
    · simp [hi]
    · simp [hi]
    · cases condition <;> rfl

end Chip8
