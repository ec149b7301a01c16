-- The timers keep to themselves: one instruction reads the delay timer and none
-- the sound timer, so machines that differ in a timer do the same, as long as
-- nobody reads it.
import Chip8.Proofs.Calls
import Chip8.Proofs.Failure
namespace Chip8

open Instruction

/-! ## Machines that differ in a timer -/

/-- Whether an instruction reads a timer. -/
def Instruction.Reads (i : Instruction) (t : Timer) : Prop := t = .delay ∧ ∃ x, i = getDelay x

namespace Machine

/-- The machine with another value in a timer. -/
def withTimer (m : Machine) (v : UInt8) : Timer → Machine
  | .delay => { m with delay := v }
  | .sound => { m with sound := v }

variable (m : Machine) (v : UInt8) (t : Timer)

theorem setReg_withTimer (x : Fin registerCount) (value : UInt8) :
    (m.withTimer v t).setReg x value = (m.setReg x value).withTimer v t := by
  cases t <;> rfl

theorem advance_withTimer : (m.withTimer v t).advance = m.advance.withTimer v t := by
  cases t <;> rfl

theorem upcoming_withTimer : (m.withTimer v t).upcoming = m.upcoming := by
  cases t <;> rfl

/-- A tick is a tick, whatever the timer stands at. -/
theorem tick_withTimer : ∃ v', (m.withTimer v t).tick = m.tick.withTimer v' t := by
  cases t
  · exact ⟨_, rfl⟩
  · exact ⟨_, rfl⟩

theorem skipIf_withTimer (condition : Bool) :
    (m.withTimer v t).skipIf condition = (m.skipIf condition).withTimer v t := by
  cases condition
  · rfl
  · exact advance_withTimer m v t

theorem compute_withTimer (op : Arithmetic) (x : Int) (y : Option Int) :
    (m.withTimer v t).compute op x y = (m.compute op x y).withTimer v t := by
  have hreg (z : Int) : (m.withTimer v t).reg z = m.reg z := by cases t <;> rfl
  unfold compute
  simp only [hreg]
  split
  · rw [setReg_withTimer, setReg_withTimer]
  · rw [setReg_withTimer]

end Machine

/-! ## One instruction -/

section
variable {κ σ ρ : Type}

/-- Two outcomes that differ in a timer at most. -/
def SameBut (t : Timer) (outcome outcome' : Except Fault Machine × Devices κ σ ρ) : Prop :=
  ∃ v, outcome' = (outcome.1.map (·.withTimer v t), outcome.2)

theorem takeKey_withTimer [Keypad κ] (m : Machine) (v : UInt8) (t : Timer) (x : Int)
    (d : Devices κ σ ρ) :
    SameBut t (takeKey m x d) (takeKey (m.withTimer v t) x d) := by
  refine ⟨v, ?_⟩
  unfold takeKey
  simp only
  split
  · rfl
  · split
    · rw [Machine.setReg_withTimer]
      rfl
    · rfl

theorem drawSprite_withTimer [Screen σ] (m : Machine) (v : UInt8) (t : Timer) (x y n : Int)
    (d : Devices κ σ ρ) :
    SameBut t (drawSprite m x y n d) (drawSprite (m.withTimer v t) x y n d) := by
  refine ⟨v, ?_⟩
  have hrange : (m.withTimer v t).checkAtIndex n = m.checkAtIndex n := by cases t <;> rfl
  unfold drawSprite
  rw [hrange]
  cases m.checkAtIndex n with
  | error f => rfl
  | ok address => cases t <;> rfl

variable [Keypad κ] [Screen σ] [RandomSource ρ]

/-- What an instruction does not read makes no difference to it. -/
theorem effect_withTimer {i : Instruction} {t : Timer} (hi : ¬ i.Reads t) (m : Machine)
    (v : UInt8) (d : Devices κ σ ρ) :
    SameBut t (effect i m d) (effect i (m.withTimer v t) d) := by
  cases i
  case getDelay x =>
    cases t with
    | delay => exact absurd ⟨rfl, x, rfl⟩ hi
    | sound => exact ⟨v, rfl⟩
  case setDelay x =>
    cases t with
    | delay => exact ⟨m.reg x, rfl⟩
    | sound => exact ⟨v, rfl⟩
  case setSound x =>
    cases t with
    | delay => exact ⟨v, rfl⟩
    | sound => exact ⟨m.reg x, rfl⟩
  case draw x y n => exact drawSprite_withTimer m v t x y n d
  case waitKey x => exact takeKey_withTimer m v t x d
  case ret =>
    have hpop : (m.withTimer v t).stack.pop = m.stack.pop := by cases t <;> rfl
    refine ⟨v, ?_⟩
    simp only [effect, hpop]
    cases m.stack.pop <;> cases t <;> rfl
  case call nnn =>
    have hpush : (m.withTimer v t).stack.push (m.withTimer v t).pc = m.stack.push m.pc := by
      cases t <;> rfl
    refine ⟨v, ?_⟩
    simp only [effect, hpush]
    cases m.stack.push m.pc <;> cases t <;> rfl
  case storeDigits x | dumpRegisters x | loadRegisters x =>
    have hrange (n : Int) : (m.withTimer v t).checkAtIndex n = m.checkAtIndex n := by
      cases t <;> rfl
    refine ⟨v, ?_⟩
    simp only [effect, hrange]
    cases m.checkAtIndex _ <;> cases t <;> rfl
  case skipEqConst | skipNeqConst | skipEqReg | skipNeqReg | skipKeyPressed | skipKeyNotPressed =>
    refine ⟨v, ?_⟩
    have hreg (z : Int) : (m.withTimer v t).reg z = m.reg z := by cases t <;> rfl
    simp only [effect, hreg, Machine.skipIf_withTimer]
    rfl
  case setReg | or | and | xor | addReg | subReg | shiftRight | subRegReversed | shiftLeft =>
    refine ⟨v, ?_⟩
    simp only [effect, Machine.compute_withTimer]
    rfl
  -- the others write a place of the machine that is no timer
  all_goals exact ⟨v, by cases t <;> rfl⟩

theorem perform_withTimer {i : Instruction} {t : Timer} (hi : ¬ i.Reads t) (m : Machine)
    (v : UInt8) (d : Devices κ σ ρ) :
    SameBut t (perform i m.tick d) (perform i (m.withTimer v t).tick d) := by
  obtain ⟨v', htick⟩ := m.tick_withTimer v t
  unfold perform
  rw [htick, Machine.advance_withTimer]
  exact effect_withTimer hi _ v' d

end

/-! ## Consoles that differ in a timer -/

namespace Console

section
variable {κ σ ρ : Type}

/-- Consoles that differ in a timer at most. What they were told does not
matter, nor the program that a reset puts back. -/
structure AgreeBut (t : Timer) (c e : Console κ σ ρ) : Prop where
  machine : ∃ v, e.machine = c.machine.withTimer v t
  devices : e.devices = c.devices

theorem AgreeBut.finish {t : Timer} {c e : Console κ σ ρ} (h : AgreeBut t c e)
    {outcome outcome' : Except Fault Machine × Devices κ σ ρ} (hsame : SameBut t outcome outcome') :
    (e.finish outcome').1 = (c.finish outcome).1 ∧
      AgreeBut t (c.finish outcome).2 (e.finish outcome').2 := by
  obtain ⟨v, rfl⟩ := hsame
  obtain ⟨result, devices⟩ := outcome
  cases result with
  | ok m => exact ⟨rfl, ⟨v, rfl⟩, rfl⟩
  -- after a fault either machine is as it was
  | error f => exact ⟨rfl, h.machine, rfl⟩

/-- Nothing that is fetched depends on a timer. -/
theorem AgreeBut.tried {t : Timer} {c e : Console κ σ ρ} (h : AgreeBut t c e)
    (a : Command) : e.tried a = c.tried a := by
  cases a with
  | step =>
    obtain ⟨v, hv⟩ := h.machine
    show e.machine.upcoming = c.machine.upcoming
    rw [hv, Machine.upcoming_withTimer]
  | execute i => rfl
  | word w => rfl

end

variable {κ σ ρ : Type} [Keypad κ] [Screen σ] [RandomSource ρ]

/-- The instructions that are carried out on the way through some commands. -/
def carriedOut (c : Console κ σ ρ) : List Command → List Instruction
  | [] => []
  | a :: rest =>
    match (c.obey a).1, c.tried a with
    | .ok (), .ok i => i :: carriedOut (c.obey a).2 rest
    | _, _ => carriedOut (c.obey a).2 rest

theorem carriedOut_subset_cons (c : Console κ σ ρ) (a : Command) (rest : List Command) :
    carriedOut (c.obey a).2 rest ⊆ c.carriedOut (a :: rest) := by
  rw [carriedOut]
  split
  · exact List.subset_cons_self _ _
  · exact List.Subset.refl _

theorem mem_carriedOut_cons {c : Console κ σ ρ} {a : Command} {i : Instruction}
    (hobey : (c.obey a).1 = .ok ()) (htried : c.tried a = .ok i) (rest : List Command) :
    i ∈ c.carriedOut (a :: rest) := by
  rw [carriedOut, hobey, htried]
  exact List.mem_cons_self

variable {t : Timer} {c e : Console κ σ ρ}

/-- A command that does not read the timer does the same on both consoles. -/
theorem AgreeBut.obey (h : AgreeBut t c e) (a : Command)
    (hreads : ∀ i, (c.obey a).1 = .ok () → c.tried a = .ok i → ¬ i.Reads t) :
    (e.obey a).1 = (c.obey a).1 ∧ AgreeBut t (c.obey a).2 (e.obey a).2 := by
  obtain ⟨notices, hc⟩ := c.exists_obey_eq a
  obtain ⟨notices', he⟩ := e.exists_obey_eq a
  have hagree : AgreeBut t (c.tell notices) (e.tell notices') := ⟨h.machine, h.devices⟩
  have hsame : SameBut t (attempt (c.tried a) c.machine c.devices)
      (attempt (e.tried a) e.machine e.devices) := by
    obtain ⟨v, hv⟩ := h.machine
    rw [h.tried a, hv, h.devices]
    cases htried : c.tried a with
    | error f => exact ⟨v, rfl⟩
    | ok i =>
      refine perform_withTimer ?_ c.machine v c.devices
      cases hanswer : (c.obey a).1 with
      | ok _ => exact hreads i hanswer htried
      | error f =>
        -- to read a timer never fails
        rw [hc, answer_finish, htried] at hanswer
        rintro ⟨-, x, rfl⟩
        cases hanswer
  rw [hc, he]
  exact hagree.finish hsame

/-- As long as nobody reads the timer, all commands do the same. -/
theorem AgreeBut.after (h : AgreeBut t c e) (commands : List Command)
    (hreads : ∀ i ∈ c.carriedOut commands, ¬ i.Reads t) :
    answers Console.obey e commands = answers Console.obey c commands ∧
      AgreeBut t (after Console.obey c commands) (after Console.obey e commands) := by
  induction commands generalizing c e with
  | nil => exact ⟨rfl, h⟩
  | cons a rest ih =>
    obtain ⟨hanswer, hnext⟩ := h.obey a fun i hok hi =>
      hreads i (mem_carriedOut_cons hok hi rest)
    obtain ⟨hanswers, hlast⟩ := ih hnext fun i hi =>
      hreads i (c.carriedOut_subset_cons a rest hi)
    refine ⟨?_, hlast⟩
    rw [answers, answers, hanswer, hanswers]

/-- Whatever the sound timer stands at, all commands do the same, be it that
they succeed or that they fail. With the delay timer it is so as long as it is
not read. -/
theorem timers_keep_to_themselves (c e : Console κ σ ρ) (commands : List Command) :
    (AgreeBut .sound c e →
      answers Console.obey e commands = answers Console.obey c commands ∧
      AgreeBut .sound (Chip8.after Console.obey c commands)
        (Chip8.after Console.obey e commands)) ∧
    (AgreeBut .delay c e → (∀ x, getDelay x ∉ c.carriedOut commands) →
      answers Console.obey e commands = answers Console.obey c commands ∧
      AgreeBut .delay (Chip8.after Console.obey c commands)
        (Chip8.after Console.obey e commands)) := by
  constructor
  · intro h
    refine h.after commands fun i _ hreads => ?_
    cases hreads.1
  · intro h hdelay
    refine h.after commands fun i hi hreads => ?_
    obtain ⟨-, x, rfl⟩ := hreads
    exact hdelay x hi

/-- A sound that is left on, and a delay that nobody asks for, go unnoticed up
to a return that nobody called for and behind it. -/
theorem timers_left_on_go_unnoticed :
    ∃ c e e' : Console SilentKeypad Grid Splitting,
      AgreeBut .sound c e ∧ c.machine.sound ≠ e.machine.sound ∧
      AgreeBut .delay c e' ∧ c.machine.delay ≠ e'.machine.delay ∧
      answers Console.obey e [.word 0xF007, .execute .ret, .step] =
        answers Console.obey c [.word 0xF007, .execute .ret, .step] ∧
      answers Console.obey e' [.word 0xF018, .execute .ret] =
        [.ok (), .error .stackUnderflow] ∧
      AgreeBut .delay (Chip8.after Console.obey c [.word 0xF018, .execute .ret])
        (Chip8.after Console.obey e' [.word 0xF018, .execute .ret]) := by
  let c := byHand []
  let e := { c with machine := c.machine.withTimer 9 .sound }
  let e' := { c with machine := c.machine.withTimer 9 .delay }
  have he : AgreeBut .sound c e := ⟨⟨9, rfl⟩, rfl⟩
  have he' : AgreeBut .delay c e' := ⟨⟨9, rfl⟩, rfl⟩
  have hcarried : c.carriedOut [.word 0xF018, .execute .ret] = [setSound 0] := rfl
  have hdelay (x : Int) : getDelay x ∉ c.carriedOut [.word 0xF018, .execute .ret] := by
    rw [hcarried]
    simp
  obtain ⟨hanswers, hagree⟩ := (timers_keep_to_themselves c e' _).2 he' hdelay
  exact ⟨c, e, e', he, by decide, he', by decide,
    ((timers_keep_to_themselves c e _).1 he).1, hanswers, hagree⟩

/-- A delay that is read does make a difference. -/
example :
    ((({ byHand [] with machine := (byHand []).machine.withTimer 9 .delay }).obey
      (.execute (getDelay 0))).2.machine.reg 0) = 8 := rfl

end Console

end Chip8
