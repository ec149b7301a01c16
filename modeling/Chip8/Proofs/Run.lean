-- Runs of a console: instructions that are carried out one after the other,
-- fetched by a step or given by hand. Both ways do the same with the
-- instruction at the program counter.
import Chip8.Console
import Chip8.Proofs.Decoding
import Chip8.Proofs.Outcome
import Chip8.Run.Runner
import Chip8.Screen.Grid
namespace Chip8

/-! ## The instruction at the program counter -/

namespace Machine

variable {m : Machine} {i : Instruction}

/-- The timers have no say in what is fetched. -/
theorem upcoming_tick (m : Machine) : m.tick.upcoming = m.upcoming := rfl

theorem fetch_eq_ok {high low : UInt8} (h : m.fetch = .ok (high, low)) :
    m.pc.toNat + 2 ≤ memorySize := by
  unfold fetch at h
  split at h
  · simp at h
  · rename_i hrange
    have := (checkRange_eq_ok_iff.1 hrange).1
    omega

theorem upcoming_eq_ok (h : m.upcoming = .ok i) :
    m.pc.toNat + 2 ≤ memorySize ∧ i.Legal := by
  unfold upcoming at h
  split at h
  · simp at h
  · rename_i high low hfetch
    split at h
    · rename_i hi
      cases h
      exact ⟨fetch_eq_ok hfetch,
        (Instruction.standsFor_of_ofFields? (Fields.consistent_ofWord _) hi).legal⟩
    · simp at h

/-- A byte of a program that fits memory and is still there. -/
theorem byteAt_load {program : List UInt8} {k : Nat} (hm : m.memory = (initial.load program).memory)
    (hk : k < program.length) (hsize : program.length ≤ maxProgramSize) :
    m.byteAt (programStart + k) = program[k] := by
  have hlt : programStart + k < memorySize := by
    unfold maxProgramSize at hsize
    omega
  have hwrite := byteAt_writeBytes initial programStart (programStart + k) program hlt
  unfold load at hm
  rw [List.take_of_length_le hsize] at hm
  unfold byteAt at hwrite ⊢
  rw [hm, hwrite, if_pos (by omega), Nat.add_sub_cancel_left, List.getElem?_eq_getElem hk]
  rfl

theorem fetch_load {program : List UInt8} {k : Nat}
    (hm : m.memory = (initial.load program).memory) (hpc : m.pc.toNat = programStart + k)
    (hk : k + 1 < program.length) (hsize : program.length ≤ maxProgramSize) :
    m.fetch = .ok (program[k], program[k + 1]) := by
  have hrange : checkRange (programStart + k : Nat) 2 = .ok (programStart + k : Nat) := by
    refine checkRange_eq_ok_iff.2 ⟨⟨by omega, ?_⟩, rfl⟩
    unfold maxProgramSize at hsize
    omega
  unfold fetch
  rw [hpc, hrange, byteAt_load hm (Nat.lt_of_succ_lt hk) hsize, Nat.add_assoc,
    byteAt_load hm hk hsize]

/-- The instruction at a place of a program that is still in memory. -/
theorem upcoming_load {program : List UInt8} {k : Nat}
    (hm : m.memory = (initial.load program).memory) (hpc : m.pc.toNat = programStart + k)
    (hk : k + 1 < program.length) (hsize : program.length ≤ maxProgramSize)
    (hi : Instruction.ofFields? (.ofBytes program[k].toNat program[k + 1].toNat) = some i) :
    m.upcoming = .ok i := by
  unfold upcoming
  rw [fetch_load hm hpc hk hsize]
  simp only [hi]

end Machine

namespace Console

/-! ## One instruction -/

theorem finish_eq_ok {κ σ ρ : Type} {c c' : Console κ σ ρ}
    {outcome : Except Fault Machine × Devices κ σ ρ} (h : c.finish outcome = (.ok (), c')) :
    outcome = (.ok c'.machine, c'.devices) ∧ c'.program = c.program := by
  unfold finish at h
  split at h
  · cases h
    exact ⟨rfl, rfl⟩
  · simp at h

theorem answer_finish {κ σ ρ : Type} (c : Console κ σ ρ)
    (outcome : Except Fault Machine × Devices κ σ ρ) :
    (c.finish outcome).1 = outcome.1.map fun _ => () := by
  obtain ⟨result, devices⟩ := outcome
  cases result <;> rfl

theorem devices_finish {κ σ ρ : Type} (c : Console κ σ ρ)
    (outcome : Except Fault Machine × Devices κ σ ρ) :
    (c.finish outcome).2.devices = outcome.2 := by
  obtain ⟨result, devices⟩ := outcome
  cases result <;> rfl

variable {κ σ ρ : Type} [Keypad κ] [Screen σ] [RandomSource ρ]

/-- A step of the console carries out an instruction. -/
def Stepped (c : Console κ σ ρ) (i : Instruction) (c' : Console κ σ ρ) : Prop :=
  c.machine.upcoming = .ok i ∧ c.step = (.ok (), c')

/-- The console carries out an instruction that was given by hand. -/
def Executed (c : Console κ σ ρ) (i : Instruction) (c' : Console κ σ ρ) : Prop :=
  c.execute i = (.ok (), c')

/-- The console carries out an instruction in one way or the other. -/
def Carried (c : Console κ σ ρ) (i : Instruction) (c' : Console κ σ ρ) : Prop :=
  c.Stepped i c' ∨ c.Executed i c'

variable {c c' : Console κ σ ρ} {i : Instruction}

/-- A successful step carries out the instruction at the program counter. -/
theorem step_eq_ok_iff : c.step = (.ok (), c') ↔ ∃ i, c.Stepped i c' := by
  constructor
  · intro h
    have hstep := (finish_eq_ok h).1
    unfold Chip8.step at hstep
    split at hstep
    · simp at hstep
    · rename_i i hi
      exact ⟨i, hi, h⟩
  · rintro ⟨i, -, h⟩
    exact h

/-- With the instruction at the program counter, a cycle by hand is a step. -/
theorem step_eq_execute (h : c.machine.upcoming = .ok i) : c.step = c.execute i := by
  have hlegal := (Machine.upcoming_eq_ok h).2
  -- only the cycle by hand checks operands, and those of a word always pass
  have hvalid := Instruction.validate_eq_ok_iff.2 ⟨hlegal, rfl⟩
  have hnotices : c.stepNotices = c.executeNotices i := by
    simp [stepNotices, executeNotices, h, Instruction.misfit?_eq_none_iff.2 hlegal]
  have hcycle : Chip8.step c.machine c.devices = Chip8.execute i c.machine c.devices := by
    simp [Chip8.step, Chip8.execute, Machine.upcoming_tick, h, hvalid]
  unfold step execute
  rw [hnotices, hcycle]

theorem Stepped.executed (h : c.Stepped i c') : c.Executed i c' :=
  (step_eq_execute h.1).symm.trans h.2

theorem Executed.stepped (h : c.Executed i c') (hi : c.machine.upcoming = .ok i) :
    c.Stepped i c' :=
  ⟨hi, (step_eq_execute hi).trans h⟩

theorem Carried.executed (h : c.Carried i c') : c.Executed i c' :=
  h.elim Stepped.executed id

theorem Executed.perform (h : c.Executed i c') :
    i.Legal ∧ Chip8.perform i c.machine.tick c.devices = (.ok c'.machine, c'.devices) := by
  have hexec := (finish_eq_ok h).1
  unfold Chip8.execute at hexec
  split at hexec
  · simp at hexec
  · rename_i j hj
    obtain ⟨hlegal, rfl⟩ := Instruction.validate_eq_ok_iff.1 hj
    exact ⟨hlegal, hexec⟩

/-- A legal instruction that takes effect can be given by hand. -/
theorem exists_executed {m : Machine} {d : Devices κ σ ρ} (hi : i.Legal)
    (h : Chip8.perform i c.machine.tick c.devices = (.ok m, d)) : ∃ c', c.Executed i c' := by
  have hexec : Chip8.execute i c.machine c.devices = (.ok m, d) := by
    unfold Chip8.execute
    rw [Instruction.validate_eq_ok_iff.2 ⟨hi, rfl⟩]
    exact h
  refine ⟨{ c.tell (c.executeNotices i) with machine := m, devices := d }, ?_⟩
  unfold Executed Console.execute
  rw [hexec]
  rfl

/-- What an instruction that was carried out made of the machine. -/
theorem Carried.outcome (h : c.Carried i c') :
    Outcome c.machine.tick.advance i c'.machine :=
  outcome_of_effect h.executed.perform.2

theorem Carried.machine_eq {m : Machine} {d : Devices κ σ ρ} (h : c.Carried i c')
    (heffect : effect i c.machine.tick.advance c.devices = (.ok m, d)) : c'.machine = m := by
  have hmachine := congrArg Prod.fst (heffect.symm.trans h.executed.perform.2)
  simp only [Except.ok.injEq] at hmachine
  exact hmachine.symm

/-! ## One after the other -/

end Console

/-- An instruction that was carried out, with the console before it. -/
structure Deed (κ σ ρ : Type) where
  before : Console κ σ ρ
  instruction : Instruction

/-- A run of a console, with a deed for each of its instructions. `R` tells
how they are carried out. -/
inductive Run {κ σ ρ : Type} (R : Console κ σ ρ → Instruction → Console κ σ ρ → Prop) :
    Console κ σ ρ → List (Deed κ σ ρ) → Console κ σ ρ → Prop where
  | nil (c : Console κ σ ρ) : Run R c [] c
  | cons {c c' c'' : Console κ σ ρ} {i : Instruction} {trace : List (Deed κ σ ρ)}
    (first : R c i c') (rest : Run R c' trace c'') : Run R c (⟨c, i⟩ :: trace) c''

namespace Run

variable {κ σ ρ : Type} {R S : Console κ σ ρ → Instruction → Console κ σ ρ → Prop}
variable {c c' : Console κ σ ρ} {trace : List (Deed κ σ ρ)}

theorem mono (hRS : ∀ {a i b}, R a i b → S a i b) (h : Run R c trace c') : Run S c trace c' := by
  induction h with
  | nil c => exact .nil c
  | cons first _ ih => exact .cons (hRS first) ih

/-- A run of two parts pauses between them. -/
theorem append_iff {front back : List (Deed κ σ ρ)} :
    Run R c (front ++ back) c' ↔ ∃ pause, Run R c front pause ∧ Run R pause back c' := by
  induction front generalizing c with
  | nil =>
    constructor
    · intro h
      exact ⟨c, .nil c, h⟩
    · rintro ⟨pause, h1, h2⟩
      cases h1
      exact h2
  | cons e front ih =>
    constructor
    · intro h
      cases h with
      | cons first rest =>
        obtain ⟨pause, h1, h2⟩ := ih.1 rest
        exact ⟨pause, .cons first h1, h2⟩
    · rintro ⟨pause, h1, h2⟩
      cases h1 with
      | cons first rest => exact .cons first (ih.2 ⟨pause, rest, h2⟩)

/-- A property of all consoles of a run is one of its first console. -/
theorem first {P : Console κ σ ρ → Prop} (h : Run R c trace c') (hP : ∀ e ∈ trace, P e.before)
    (hlast : P c') : P c := by
  cases h with
  | nil => exact hlast
  | cons => exact hP _ List.mem_cons_self

/-- What each instruction keeps that leads to a console with a property, a run
keeps among consoles with this property. -/
theorem keeps_among {P I : Console κ σ ρ → Prop}
    (hstep : ∀ {a i b}, R a i b → P b → I a → I b) (h : Run R c trace c')
    (hP : ∀ e ∈ trace, P e.before) (hlast : P c') (hc : I c) : I c' := by
  induction h with
  | nil => exact hc
  | cons first rest ih =>
    have htrace := fun e he => hP e (List.mem_cons_of_mem _ he)
    exact ih htrace hlast (hstep first (rest.first htrace hlast) hc)

/-- What each instruction keeps, a run keeps. -/
theorem keeps {I : Console κ σ ρ → Prop} (hstep : ∀ {a i b}, R a i b → I a → I b)
    (h : Run R c trace c') (hc : I c) : I c' :=
  h.keeps_among (P := fun _ => True) (fun first _ => hstep first) (fun _ _ => trivial) trivial hc

end Run

/-- The runs of a number of steps are those that a batch gets to the end of. -/
theorem stepTimes_eq_ok_iff {κ σ ρ : Type} [Keypad κ] [Screen σ] [RandomSource ρ]
    {n executed total : Nat} {c c' : Console κ σ ρ} :
    c.stepTimes n executed = (.ok total, c') ↔
      total = executed + n ∧ ∃ trace, trace.length = n ∧ Run Console.Stepped c trace c' := by
  induction n generalizing c executed with
  | zero =>
    unfold Console.stepTimes
    constructor
    · intro h
      cases h
      exact ⟨rfl, [], rfl, .nil _⟩
    · rintro ⟨rfl, trace, hlength, h⟩
      cases h with
      | nil => rfl
      | cons => cases hlength
  | succ n ih =>
    unfold Console.stepTimes
    constructor
    · intro h
      split at h
      · rename_i c1 hstep
        obtain ⟨i, hfirst⟩ := Console.step_eq_ok_iff.1 hstep
        obtain ⟨rfl, trace, rfl, hrest⟩ := ih.1 h
        exact ⟨by omega, ⟨_, i⟩ :: trace, rfl, .cons hfirst hrest⟩
      · cases h
    · rintro ⟨rfl, trace, hlength, h⟩
      cases h with
      | nil => cases hlength
      | cons hfirst hrest =>
        rw [hfirst.2]
        exact ih.2 ⟨by omega, _, Nat.succ.inj hlength, hrest⟩

/-- Devices that nobody touches. -/
def Devices.untouched : Devices SilentKeypad Grid Splitting := ⟨{}, .standard, ⟨⟨0, 0⟩⟩⟩

/-- A console that nobody touches, at power-on with a program in memory. -/
def loaded (program : List UInt8) : Console SilentKeypad Grid Splitting :=
  (Console.new .untouched).loadBytes program

/-- A console that nobody touches, after instructions that were given by hand
at power-on. -/
def byHand (is : List Instruction) : Console SilentKeypad Grid Splitting :=
  ((Console.new .untouched).executeMany is).2

end Chip8
