-- Why an instruction fails, and exactly when a step does. Each way to fail is
-- a case of `Failure`, with what it leaves of the devices.
import Chip8.Proofs.Run
namespace Chip8

open Instruction

/-! ## Ranges of memory -/

namespace Machine

/-- A range is refused if it begins before memory or ends behind it, and the
refusal tells the range. -/
theorem checkRange_eq_error_iff {address length : Int} {f : Fault} :
    checkRange address length = .error f ↔
      (address < 0 ∨ memorySize < address + length) ∧ f = .memoryAccess address length := by
  unfold checkRange
  split
  · rename_i hout
    simp only [Except.error.injEq]
    constructor
    · rintro rfl
      exact ⟨by omega, rfl⟩
    · rintro ⟨-, rfl⟩
      rfl
  · simp only [reduceCtorEq, false_iff]
    omega

theorem checkAtIndex_eq_error_iff {m : Machine} {length : Int} {f : Fault} :
    m.checkAtIndex length = .error f ↔
      memorySize < m.index.toNat + length ∧ f = .memoryAccess m.index.toNat length := by
  unfold checkAtIndex
  rw [checkRange_eq_error_iff]
  have h0 : ¬ ((m.index.toNat : Int) < 0) := by omega
  simp only [h0, false_or]

end Machine

/-! ## The call stack -/

namespace CallStack

variable {s : CallStack} {address : UInt16} {f : Fault}

/-- A pop fails on an empty stack only. -/
theorem pop_eq_error_iff_of_bounded (hs : s.Bounded) :
    s.pop = .error f ↔ s.depth = 0 ∧ f = .stackUnderflow := by
  obtain ⟨h0, h1⟩ := hs
  unfold pop
  split
  · have hfits : Text.fitsHalfWord (s.depth - 1) = true :=
      fitsHalfWord_of_lt (by omega) (by omega)
    simp only [hfits, if_true, reduceCtorEq, false_iff]
    omega
  · simp only [Except.error.injEq]
    constructor
    · rintro rfl
      exact ⟨by omega, rfl⟩
    · rintro ⟨-, rfl⟩
      rfl

/-- A push fails on a full stack only. -/
theorem push_eq_error_iff_of_bounded (hs : s.Bounded) :
    s.push address = .error f ↔ s.depth = stackSize ∧ f = .stackOverflow stackSize := by
  obtain ⟨h0, h1⟩ := hs
  unfold push
  split
  · rename_i hroom
    have hfits := fitsHalfWord_of_lt h0 hroom
    have hplace : fromFront s.depth = s.depth := if_neg (by omega)
    simp only [hplace, hfits, if_true, reduceCtorEq, false_iff]
    omega
  · simp only [Except.error.injEq]
    constructor
    · rintro rfl
      exact ⟨by omega, rfl⟩
    · rintro ⟨-, rfl⟩
      rfl

theorem pop_ne_closed (s : CallStack) (reason : String) :
    s.pop ≠ .error (.inputClosed reason) := by
  unfold pop
  grind

theorem push_ne_closed (s : CallStack) (address : UInt16) (reason : String) :
    s.push address ≠ .error (.inputClosed reason) := by
  unfold push
  grind

end CallStack

/-! ## Failing effects -/

/-- How many bytes from the index on an instruction reads or writes. -/
def Instruction.reach? : Instruction → Option Int
  | draw _ _ n => some n
  | storeDigits _ => some 3
  | dumpRegisters x | loadRegisters x => some (x + 1)
  | _ => none

section
variable {κ σ ρ : Type} [Keypad κ]

/-- An instruction fails on a machine with a fault and leaves the devices as
given. Only a wait for a key has used one by then. -/
inductive Failure (m : Machine) (d : Devices κ σ ρ) :
    Instruction → Fault → Devices κ σ ρ → Prop where
  | pop {f : Fault} (h : m.stack.pop = .error f) : Failure m d ret f d
  | push (nnn : Int) {f : Fault} (h : m.stack.push m.pc = .error f) : Failure m d (call nnn) f d
  | reach {i : Instruction} {n : Int} (hi : i.reach? = some n)
    (h : memorySize < m.index.toNat + n) : Failure m d i (.memoryAccess m.index.toNat n) d
  | wait (x : Int) {f : Fault} {keypad : κ} (h : Keypad.wait d.keypad = (.error f, keypad)) :
    Failure m d (waitKey x) f { d with keypad }
  | key (x : Int) {key : Int} {keypad : κ} (h : Keypad.wait d.keypad = (.ok key, keypad))
    (hkey : key < 0 ∨ 0xFF < key) : Failure m d (waitKey x) (.keyNotByte key) { d with keypad }

variable {m m' : Machine} {d d' : Devices κ σ ρ} {i : Instruction} {f : Fault}

theorem map_eq_error {α β : Type} {a : Except Fault α} {g : α → β} (h : a.map g = .error f) :
    a = .error f := by
  cases a with
  | error => simpa [Except.map] using h
  | ok v => simp [Except.map] at h

theorem takeKey_eq_error {x : Int} (h : takeKey m x d = (.error f, d')) :
    Failure m d (waitKey x) f d' := by
  unfold takeKey at h
  cases hwait : Keypad.wait d.keypad with
  | mk answer keypad =>
    simp only [hwait] at h
    cases answer with
    | error g =>
      cases h
      exact .wait x hwait
    | ok key =>
      simp only at h
      split at h
      · simp at h
      · cases h
        exact .key x hwait (by omega)

theorem drawSprite_eq_error [Screen σ] {x y n : Int}
    (h : drawSprite m x y n d = (.error f, d')) : Failure m d (draw x y n) f d' := by
  unfold drawSprite at h
  split at h
  · rename_i hrange
    cases h
    obtain ⟨hend, rfl⟩ := Machine.checkAtIndex_eq_error_iff.1 hrange
    exact .reach rfl hend
  · simp at h

variable [Screen σ] [RandomSource ρ]

/-- Whatever stops an instruction is one of its failures. -/
theorem failure_of_effect (hi : i.Legal) (h : effect i m d = (.error f, d')) :
    Failure m d i f d' := by
  cases i
  case ret =>
    simp only [effect, Prod.mk.injEq] at h
    obtain ⟨h, rfl⟩ := h
    exact .pop (map_eq_error h)
  case call nnn =>
    simp only [effect, Prod.mk.injEq] at h
    obtain ⟨h, rfl⟩ := h
    exact .push nnn (map_eq_error h)
  case draw x y n => exact drawSprite_eq_error h
  case waitKey x => exact takeKey_eq_error h
  case storeDigits x =>
    simp only [effect, Prod.mk.injEq] at h
    obtain ⟨h, rfl⟩ := h
    obtain ⟨hend, rfl⟩ := Machine.checkAtIndex_eq_error_iff.1 (map_eq_error h)
    exact .reach rfl hend
  case dumpRegisters x | loadRegisters x =>
    simp only [effect, Prod.mk.injEq] at h
    obtain ⟨h, rfl⟩ := h
    obtain ⟨hend, rfl⟩ := Machine.checkAtIndex_eq_error_iff.1 (map_eq_error h)
    rw [Machine.countUpTo_of_fits (hi _ List.mem_cons_self)] at hend ⊢
    exact .reach rfl hend
  -- the others always succeed
  all_goals cases h

/-- Each failure stops its instruction. -/
theorem Failure.effect_eq (hi : i.Legal) (h : Failure m d i f d') :
    effect i m d = (.error f, d') := by
  cases h with
  | pop h => simp [effect, h, Except.map]
  | push nnn h => simp [effect, h, Except.map]
  | wait x h => simp [effect, takeKey, h]
  | key x h hkey =>
    simp only [effect, takeKey, h]
    rw [if_neg (by omega)]
  | @reach i n hreach hend =>
    have hrange : m.checkAtIndex n = .error (.memoryAccess m.index.toNat n) :=
      Machine.checkAtIndex_eq_error_iff.2 ⟨hend, rfl⟩
    cases i
    case draw x y height =>
      cases hreach
      simp [effect, drawSprite, hrange]
    case storeDigits x =>
      cases hreach
      simp [effect, hrange, Except.map]
    case dumpRegisters x | loadRegisters x =>
      cases hreach
      rw [← Machine.countUpTo_of_fits (hi _ List.mem_cons_self)] at hrange ⊢
      simp [effect, hrange, Except.map]
    all_goals cases hreach

theorem effect_eq_error_iff (hi : i.Legal) :
    effect i m d = (.error f, d') ↔ Failure m d i f d' :=
  ⟨failure_of_effect hi, Failure.effect_eq hi⟩

end

/-! ## The word at the program counter -/

namespace Machine

variable {m : Machine} {i : Instruction} {f : Fault}

/-- The word that the two bytes at the program counter make. -/
def word (m : Machine) : Nat :=
  0x100 * (m.byteAt m.pc.toNat).toNat + (m.byteAt (m.pc.toNat + 1)).toNat

/-- The instruction stands at the program counter, with both bytes of its word
in memory. -/
def Holds (m : Machine) (i : Instruction) : Prop :=
  m.pc.toNat ≤ 4094 ∧ ofWord m.word = .ok i

theorem Holds.unique {j : Instruction} (hi : m.Holds i) (hj : m.Holds j) : i = j := by
  have h := hi.2.symm.trans hj.2
  injection h

theorem word_lt (m : Machine) : m.word < 0x10000 := by
  have hhigh := (m.byteAt m.pc.toNat).toNat_lt
  have hlow := (m.byteAt (m.pc.toNat + 1)).toNat_lt
  unfold word
  omega

theorem joinBytes_toNat (high low : UInt8) :
    joinBytes high.toNat low.toNat = 0x100 * high.toNat + low.toNat := by
  have hhigh := high.toNat_lt
  have hlow := low.toNat_lt
  rw [joinBytes_eq]
  unfold lowByte
  omega

/-- A fetch fails if the second byte would be outside memory. -/
theorem upcoming_of_outside (h : 4094 < m.pc.toNat) :
    m.upcoming = .error (.memoryAccess m.pc.toNat 2) := by
  have hsize : memorySize = 4096 := rfl
  have hrange : checkRange m.pc.toNat 2 = .error (.memoryAccess m.pc.toNat 2) :=
    checkRange_eq_error_iff.2 ⟨by omega, rfl⟩
  unfold upcoming fetch
  rw [hrange]

theorem upcoming_of_inside (h : m.pc.toNat ≤ 4094) :
    m.upcoming = match ofFields? (.ofWord m.word) with
      | some i => .ok i
      | none => .error (.unknownOpcode m.word (some m.pc.toNat)) := by
  have hsize : memorySize = 4096 := rfl
  have hrange : checkRange m.pc.toNat 2 = .ok m.pc.toNat :=
    checkRange_eq_ok_iff.2 ⟨by omega, rfl⟩
  unfold upcoming fetch
  rw [hrange]
  simp only [Fields.ofBytes, joinBytes_toNat]
  rfl

theorem upcoming_eq_ok_iff : m.upcoming = .ok i ↔ m.Holds i := by
  unfold Holds
  rw [ofWord_eq_ok_iff]
  by_cases h : m.pc.toNat ≤ 4094
  · rw [upcoming_of_inside h]
    cases ofFields? (.ofWord m.word) <;> simp [h]
  · rw [upcoming_of_outside (by omega)]
    simp [h]

theorem upcoming_eq_error_iff :
    m.upcoming = .error f ↔
      (4094 < m.pc.toNat ∧ f = .memoryAccess m.pc.toNat 2) ∨
      (m.pc.toNat ≤ 4094 ∧ (∀ p ∈ patterns, ¬ p.Matches m.word) ∧
        f = .unknownOpcode m.word (some m.pc.toNat)) := by
  by_cases h : m.pc.toNat ≤ 4094
  · have hraw : (Fields.ofWord m.word).raw = m.word := by
      have hlt := m.word_lt
      rw [Fields.raw_ofWord]
      unfold lowWord
      omega
    have hsome := isSome_ofFields? (Fields.consistent_ofWord m.word)
    rw [hraw] at hsome
    have hin : ¬ 4094 < m.pc.toNat := by omega
    rw [upcoming_of_inside h]
    simp only [hin, h, false_and, true_and, false_or]
    cases hread : ofFields? (.ofWord m.word) with
    | some i =>
      obtain ⟨p, hp, hmatch⟩ := hsome.1 (by rw [hread]; rfl)
      simp only [reduceCtorEq, false_iff]
      intro hnone
      exact hnone.1 p hp hmatch
    | none =>
      have hnone : ∀ p ∈ patterns, ¬ p.Matches m.word := by
        intro p hp hmatch
        have := hsome.2 ⟨p, hp, hmatch⟩
        rw [hread] at this
        cases this
      simp only [Except.error.injEq]
      exact ⟨fun hf => ⟨hnone, hf.symm⟩, fun hf => hf.2.symm⟩
  · rw [upcoming_of_outside (by omega)]
    simp only [h, Except.error.injEq, false_and, or_false]
    exact ⟨fun hf => ⟨by omega, hf.symm⟩, fun hf => hf.2.symm⟩

end Machine

/-! ## Exactly when a step fails -/

section
variable {κ σ ρ : Type} [Keypad κ] [Screen σ] [RandomSource ρ]

/-- A step fails while it fetches its instruction or because the instruction
does. -/
theorem step_eq_error_iff {m : Machine} {d d' : Devices κ σ ρ} {f : Fault} :
    step m d = (.error f, d') ↔
      (m.upcoming = .error f ∧ d' = d) ∨
      ∃ i, m.Holds i ∧ Failure m.tick.advance d i f d' := by
  unfold step
  rw [Machine.upcoming_tick]
  cases hup : m.upcoming with
  | error g =>
    have hnone (i : Instruction) : ¬ m.Holds i := fun hi => by
      rw [Machine.upcoming_eq_ok_iff.2 hi] at hup
      cases hup
    simp only [Prod.mk.injEq, Except.error.injEq, hnone, false_and, exists_false, or_false]
    exact and_congr_right fun _ => eq_comm
  | ok i =>
    have hlegal := (Machine.upcoming_eq_ok hup).2
    simp only [reduceCtorEq, false_and, false_or]
    show effect i m.tick.advance d = _ ↔ _
    rw [effect_eq_error_iff hlegal]
    constructor
    · intro hfail
      exact ⟨i, Machine.upcoming_eq_ok_iff.1 hup, hfail⟩
    · rintro ⟨j, hj, hfail⟩
      rw [Machine.upcoming_eq_ok_iff.2 hj] at hup
      cases hup
      exact hfail

/-- Only a wait for a key meets a closed input, and it has that from the keypad. -/
theorem waits_of_closed {m : Machine} {d d' : Devices κ σ ρ} {reason : String}
    (h : step m d = (.error (.inputClosed reason), d')) :
    ∃ x keypad, m.Holds (waitKey x) ∧
      Keypad.wait d.keypad = (.error (.inputClosed reason), keypad) := by
  rcases step_eq_error_iff.1 h with ⟨hup, -⟩ | ⟨i, hi, hfail⟩
  · rcases Machine.upcoming_eq_error_iff.1 hup with ⟨-, hf⟩ | ⟨-, -, hf⟩ <;> cases hf
  · generalize hf : Fault.inputClosed reason = f at hfail
    cases hfail with
    | pop hpop => exact absurd (hf ▸ hpop) (CallStack.pop_ne_closed _ reason)
    | push nnn hpush => exact absurd (hf ▸ hpush) (CallStack.push_ne_closed _ _ reason)
    | reach => cases hf
    | wait x hwait => exact ⟨x, _, hi, hwait⟩
    | key => cases hf

/-- What can stop a step, by the machine and by what the keypad would answer to
a wait for a key. -/
inductive StepFault (m : Machine) (answer : Except Fault Int) : Fault → Prop where
  /-- A byte of the instruction is outside memory. -/
  | fetch (h : 4094 < m.pc.toNat) : StepFault m answer (.memoryAccess m.pc.toNat 2)
  /-- The word is no instruction. -/
  | opcode (hpc : m.pc.toNat ≤ 4094) (h : ∀ p ∈ patterns, ¬ p.Matches m.word) :
    StepFault m answer (.unknownOpcode m.word (some m.pc.toNat))
  /-- A return finds no call. -/
  | underflow (h : m.Holds ret) (hdepth : m.stack.depth = 0) : StepFault m answer .stackUnderflow
  /-- A call finds every cell in use. -/
  | overflow {nnn : Int} (h : m.Holds (call nnn)) (hdepth : m.stack.depth = 256) :
    StepFault m answer (.stackOverflow 256)
  /-- The bytes from the index on end behind memory. -/
  | reach {i : Instruction} {n : Int} (h : m.Holds i) (hi : i.reach? = some n)
    (hend : 4096 < m.index.toNat + n) : StepFault m answer (.memoryAccess m.index.toNat n)
  /-- A wait for a key is called off. -/
  | wait {x : Int} {f : Fault} (h : m.Holds (waitKey x)) (hanswer : answer = .error f) :
    StepFault m answer f
  /-- A key does not fit a register. -/
  | key {x key : Int} (h : m.Holds (waitKey x)) (hanswer : answer = .ok key)
    (hkey : key < 0 ∨ 255 < key) : StepFault m answer (.keyNotByte key)

variable {m : Machine} {d : Devices κ σ ρ} {f : Fault}

theorem stepFault_of_step {d' : Devices κ σ ρ} (hm : m.stack.Bounded)
    (h : step m d = (.error f, d')) : StepFault m (Keypad.wait d.keypad).1 f := by
  rcases step_eq_error_iff.1 h with ⟨hup, -⟩ | ⟨i, hi, hfail⟩
  · rcases Machine.upcoming_eq_error_iff.1 hup with ⟨hpc, rfl⟩ | ⟨hpc, hnone, rfl⟩
    · exact .fetch hpc
    · exact .opcode hpc hnone
  · cases hfail with
    | pop hpop =>
      obtain ⟨hdepth, rfl⟩ := (CallStack.pop_eq_error_iff_of_bounded hm).1 hpop
      exact .underflow hi hdepth
    | push nnn hpush =>
      obtain ⟨hdepth, rfl⟩ := (CallStack.push_eq_error_iff_of_bounded hm).1 hpush
      exact .overflow hi hdepth
    | reach hreach hend => exact .reach hi hreach hend
    | wait x hwait => exact .wait hi (congrArg Prod.fst hwait)
    | key x hwait hkey => exact .key hi (congrArg Prod.fst hwait) hkey

theorem StepFault.step_eq (hm : m.stack.Bounded) (h : StepFault m (Keypad.wait d.keypad).1 f) :
    ∃ d', step m d = (.error f, d') := by
  cases h with
  | fetch hpc => exact ⟨d, step_eq_error_iff.2 (.inl ⟨Machine.upcoming_of_outside hpc, rfl⟩)⟩
  | opcode hpc hnone =>
    have hup := Machine.upcoming_eq_error_iff.2 (.inr ⟨hpc, hnone, rfl⟩)
    exact ⟨d, step_eq_error_iff.2 (.inl ⟨hup, rfl⟩)⟩
  | underflow hi hdepth =>
    have hpop := (CallStack.pop_eq_error_iff_of_bounded hm).2 ⟨hdepth, rfl⟩
    exact ⟨d, step_eq_error_iff.2 (.inr ⟨_, hi, .pop hpop⟩)⟩
  | overflow hi hdepth =>
    have hpush : m.stack.push m.tick.advance.pc = .error (.stackOverflow stackSize) :=
      (CallStack.push_eq_error_iff_of_bounded hm).2 ⟨hdepth, rfl⟩
    exact ⟨d, step_eq_error_iff.2 (.inr ⟨_, hi, .push _ hpush⟩)⟩
  | reach hi hreach hend => exact ⟨d, step_eq_error_iff.2 (.inr ⟨_, hi, .reach hreach hend⟩)⟩
  | wait hi hanswer => exact ⟨_, step_eq_error_iff.2 (.inr ⟨_, hi, .wait _ (Prod.ext hanswer rfl)⟩)⟩
  | key hi hanswer hkey =>
    exact ⟨_, step_eq_error_iff.2 (.inr ⟨_, hi, .key _ (Prod.ext hanswer rfl) hkey⟩)⟩

namespace Console

theorem finish_eq_error {κ σ ρ : Type} {c c' : Console κ σ ρ}
    {outcome : Except Fault Machine × Devices κ σ ρ} (h : c.finish outcome = (.error f, c')) :
    outcome = (.error f, c'.devices) ∧ c'.machine = c.machine ∧ c'.program = c.program := by
  unfold finish at h
  split at h
  · simp at h
  · cases h
    exact ⟨rfl, rfl, rfl⟩

theorem step_eq_error_iff_stepFault {c : Console κ σ ρ} (hc : c.machine.stack.Bounded) :
    (∃ c', c.step = (.error f, c')) ↔ StepFault c.machine (Keypad.wait c.devices.keypad).1 f := by
  constructor
  · rintro ⟨c', h⟩
    exact stepFault_of_step hc (finish_eq_error h).1
  · intro h
    obtain ⟨d', hstep⟩ := h.step_eq hc
    unfold Console.step
    exact ⟨_, congrArg _ hstep⟩

/-- On a machine whose call stack is in its bounds, a step fails with a fault
if and only if the fault has its cause, and succeeds if and only if there is
none. -/
theorem step_fails_only_for_a_cause {c : Console κ σ ρ} (hc : c.machine.stack.Bounded) :
    (∀ f, (∃ c', c.step = (.error f, c')) ↔
      StepFault c.machine (Keypad.wait c.devices.keypad).1 f) ∧
    ((∃ c', c.step = (.ok (), c')) ↔
      ∀ f, ¬ StepFault c.machine (Keypad.wait c.devices.keypad).1 f) := by
  refine ⟨fun f => step_eq_error_iff_stepFault hc, ?_⟩
  simp only [← step_eq_error_iff_stepFault hc]
  cases h : c.step with
  | mk answer c' => cases answer <;> simp

/-- Three digits at `FFE` would end one byte behind memory, at `FFD` they end
with it: after `AFFE`, the instruction `F033` fails, and after `AFFD` it does
not. -/
theorem storing_digits_fails_only_past_memory :
    ∃ c e : Console SilentKeypad Grid Splitting,
      c.machine.stack.Bounded ∧ c.machine.Holds (storeDigits 0) ∧
      (∃ c', c.step = (.error (.memoryAccess 0xFFE 3), c')) ∧
      e.machine.stack.Bounded ∧ e.machine.Holds (storeDigits 0) ∧ ∃ e', e.step = (.ok (), e') := by
  let past := ((loaded [0xAF, 0xFE, 0xF0, 0x33]).execute (setIndex 0xFFE)).2
  let within := ((loaded [0xAF, 0xFD, 0xF0, 0x33]).execute (setIndex 0xFFD)).2
  have hpast : past.machine.Holds (storeDigits 0) := Machine.upcoming_eq_ok_iff.1
    (Machine.upcoming_load (k := 2) rfl rfl (by decide) (by decide) (by decide))
  have hwithin : within.machine.Holds (storeDigits 0) := Machine.upcoming_eq_ok_iff.1
    (Machine.upcoming_load (k := 2) rfl rfl (by decide) (by decide) (by decide))
  have hbounded : past.machine.stack.Bounded := CallStack.bounded_empty
  have hbounded' : within.machine.stack.Bounded := CallStack.bounded_empty
  have hfault := ((step_fails_only_for_a_cause hbounded).1 (.memoryAccess 0xFFE 3)).2
    (.reach (n := 3) hpast rfl (by decide))
  have hfree : ∀ f, ¬ StepFault within.machine (Keypad.wait within.devices.keypad).1 f := by
    intro f hf
    cases hf with
    | fetch hpc => exact absurd hpc (by decide)
    | opcode hpc hnone =>
      have hup := Machine.upcoming_eq_error_iff.2 (.inr ⟨hpc, hnone, rfl⟩)
      rw [Machine.upcoming_eq_ok_iff.2 hwithin] at hup
      cases hup
    | underflow h | overflow h | wait h | key h => cases hwithin.unique h
    | reach h hi hend =>
      cases hwithin.unique h
      cases hi
      exact absurd hend (by decide)
  exact ⟨past, within, hbounded, hpast, hfault, hbounded', hwithin,
    (step_fails_only_for_a_cause hbounded').2.2 hfree⟩

end Console

end

end Chip8
