-- Calls one after the other: to a screen, and to a console with its commands.
-- All that a console does to its screen is a row of calls, so what holds after
-- any calls holds after any use of the console.
import Chip8.Proofs.Footprint
namespace Chip8

/-! ## Answers one after the other -/

section
variable {β α γ : Type} (act : β → α → γ × β)

/-- The answers that something gives on its way through a list. -/
def answers : β → List α → List γ
  | _, [] => []
  | b, a :: rest => (act b a).1 :: answers (act b a).2 rest

def after (b : β) (as : List α) : β := as.foldl (fun b a => (act b a).2) b

@[simp] theorem after_nil (b : β) : after act b [] = b := rfl

@[simp] theorem after_cons (b : β) (a : α) (as : List α) :
    after act b (a :: as) = after act (act b a).2 as := rfl

theorem after_append (b : β) (front back : List α) :
    after act b (front ++ back) = after act (after act b front) back := List.foldl_append

theorem answers_append (b : β) (front back : List α) :
    answers act b (front ++ back) =
      answers act b front ++ answers act (after act b front) back := by
  induction front generalizing b with
  | nil => rfl
  | cons a rest ih => exact congrArg _ (ih _)

theorem length_answers (b : β) (as : List α) : (answers act b as).length = as.length := by
  induction as generalizing b with
  | nil => rfl
  | cons a rest ih => exact congrArg _ (ih _)

end

/-! ## Calls to a screen -/

inductive ScreenCall where
  | set (x y bit : Int)
  | get (x y : Int)
  | clear
  | refresh
deriving DecidableEq, Repr

namespace Screen

/-- A screen answers a call to read a pixel, and no other. -/
def answer {σ : Type} [Screen σ] (s : σ) : ScreenCall → Option Int × σ
  | .set x y bit => (none, Screen.set s x y bit)
  | .get x y => (some (Screen.get s x y), s)
  | .clear => (none, Screen.clear s)
  | .refresh => (none, Screen.refresh s)

end Screen

/-- The pixels of a screen can be found in another one, which changes along. -/
structure Embeds {σ σ' : Type} [Screen σ] [Screen σ'] (f : σ → σ') : Prop where
  get : ∀ s x y, Screen.get (f s) x y = Screen.get s x y
  answer : ∀ s call, (Screen.answer (f s) call).2 = f (Screen.answer s call).2

section
variable {σ σ' : Type} [Screen σ] [Screen σ'] {f : σ → σ'}

theorem Embeds.after (h : Embeds f) (s : σ) (calls : List ScreenCall) :
    after Screen.answer (f s) calls = f (after Screen.answer s calls) := by
  induction calls generalizing s with
  | nil => rfl
  | cons call rest ih => rw [after_cons, h.answer, ih, after_cons]

theorem Embeds.answers (h : Embeds f) (s : σ) (calls : List ScreenCall) :
    answers Screen.answer (f s) calls = answers Screen.answer s calls := by
  induction calls generalizing s with
  | nil => rfl
  | cons call rest ih =>
    have hanswer : (Screen.answer (f s) call).1 = (Screen.answer s call).1 := by
      cases call with
      | get x y => exact congrArg some (h.get s x y)
      | set | clear | refresh => rfl
    unfold Chip8.answers
    rw [hanswer, h.answer, ih]

end

section
variable {σ : Type} [Screen σ]

/-- To flip a pixel is to read it and to set it. -/
theorem exists_calls_plot (s : σ × Bool) (cell : Int × Int × Int) :
    ∃ calls, (plot s cell).1 = after Screen.answer s.1 calls := by
  obtain ⟨x, y, bit⟩ := cell
  exact ⟨[.get x y, .set x y (bitXor (Screen.get s.1 x y) bit)], rfl⟩

theorem exists_calls_foldl_plot (s : σ × Bool) (cells : List (Int × Int × Int)) :
    ∃ calls, (cells.foldl plot s).1 = after Screen.answer s.1 calls := by
  induction cells generalizing s with
  | nil => exact ⟨[], rfl⟩
  | cons cell rest ih =>
    obtain ⟨first, hfirst⟩ := exists_calls_plot s cell
    obtain ⟨calls, hcalls⟩ := ih (plot s cell)
    refine ⟨first ++ calls, ?_⟩
    rw [List.foldl_cons, hcalls, hfirst, after_append]

theorem exists_calls_drawSprite {κ ρ : Type} (m : Machine) (x y n : Int) (d : Devices κ σ ρ) :
    ∃ calls, (drawSprite m x y n d).2.screen = after Screen.answer d.screen calls := by
  unfold drawSprite
  split
  · exact ⟨[], rfl⟩
  · exact exists_calls_foldl_plot (d.screen, false) _

variable {κ ρ : Type} [Keypad κ] [RandomSource ρ]

theorem exists_calls_effect (i : Instruction) (m : Machine) (d : Devices κ σ ρ) :
    ∃ calls, (effect i m d).2.screen = after Screen.answer d.screen calls := by
  by_cases hclear : i = .clearScreen
  · subst hclear
    exact ⟨[.clear], rfl⟩
  by_cases hdraw : ∃ x y n, i = .draw x y n
  · obtain ⟨x, y, n, rfl⟩ := hdraw
    exact exists_calls_drawSprite m x y n d
  · refine ⟨[], ?_⟩
    exact screen_effect i m d hclear fun x y n hi => hdraw ⟨x, y, n, hi⟩

end

/-! ## Commands to a console -/

/-- A cycle that a console is told to carry out. -/
inductive Command where
  /-- With the instruction at the program counter. -/
  | step
  /-- With an instruction given by hand. -/
  | execute (i : Instruction)
  /-- With the instruction of a word. -/
  | word (w : Int)
deriving DecidableEq

/-- A cycle with an instruction, if it comes to one. -/
def attempt {κ σ ρ : Type} [Keypad κ] [Screen σ] [RandomSource ρ]
    (tried : Except Fault Instruction) (m : Machine) (d : Devices κ σ ρ) :
    Except Fault Machine × Devices κ σ ρ :=
  match tried with
  | .error f => (.error f, d)
  | .ok i => perform i m.tick d

/-- What can be done with a console. -/
inductive Operation where
  | command (a : Command)
  | load (values : List Int)
  | loadFile (file : String) (contents : Except Refusal (List UInt8))
  | reset
  /-- Its screen is called directly. -/
  | screen (call : ScreenCall)

namespace Console

variable {κ σ ρ : Type} [Keypad κ] [Screen σ] [RandomSource ρ]

/-- The console after a command, whether or not it failed. -/
def obey (c : Console κ σ ρ) : Command → Except Fault Unit × Console κ σ ρ
  | .step => c.step
  | .execute i => c.execute i
  | .word w => c.executeWord w

/-- The instruction that a command comes to, if it is one. -/
def tried (c : Console κ σ ρ) : Command → Except Fault Instruction
  | .step => c.machine.upcoming
  | .execute i => i.validate
  | .word w => Instruction.ofWord w

/-- Whatever the command, its instruction is carried out alike. Only what the
console is told differs. -/
theorem exists_obey_eq (c : Console κ σ ρ) (a : Command) :
    ∃ notices, c.obey a = (c.tell notices).finish (attempt (c.tried a) c.machine c.devices) := by
  cases a with
  | step => exact ⟨c.stepNotices, rfl⟩
  | execute i => exact ⟨c.executeNotices i, rfl⟩
  | word w =>
    show ∃ notices, c.executeWord w =
      (c.tell notices).finish (attempt (Instruction.ofWord w) c.machine c.devices)
    unfold executeWord
    cases hi : Instruction.ofWord w with
    | error f => exact ⟨[.unknownOpcode (lowWord w)], rfl⟩
    | ok i =>
      have hlegal := (Instruction.standsFor_of_ofWord hi).legal
      refine ⟨c.executeNotices i, ?_⟩
      show c.execute i = _
      unfold Console.execute Chip8.execute
      rw [Instruction.validate_eq_ok_iff.2 ⟨hlegal, rfl⟩]
      rfl

theorem exists_calls_obey (c : Console κ σ ρ) (a : Command) :
    ∃ calls, (c.obey a).2.devices.screen = after Screen.answer c.devices.screen calls := by
  obtain ⟨notices, hobey⟩ := c.exists_obey_eq a
  rw [hobey, devices_finish]
  cases c.tried a with
  | error f => exact ⟨[], rfl⟩
  | ok i => exact exists_calls_effect i _ c.devices

omit [Keypad κ] [Screen σ] [RandomSource ρ] in
theorem legal_of_tried {c : Console κ σ ρ} {a : Command} {i : Instruction}
    (h : c.tried a = .ok i) : i.Legal := by
  cases a with
  | step => exact (Machine.upcoming_eq_ok h).2
  | execute j =>
    obtain ⟨hlegal, rfl⟩ := Instruction.validate_eq_ok_iff.1 h
    exact hlegal
  | word w => exact (Instruction.standsFor_of_ofWord h).legal

/-- A command fails, and then the machine is as it was, or its instruction is
carried out. -/
theorem obey_cases (c : Console κ σ ρ) (a : Command) :
    (∃ f, (c.obey a).1 = .error f ∧ (c.obey a).2.machine = c.machine) ∨
    ∃ i, c.tried a = .ok i ∧ (c.obey a).1 = .ok () ∧
      perform i c.machine.tick c.devices = (.ok (c.obey a).2.machine, (c.obey a).2.devices) := by
  obtain ⟨notices, hobey⟩ := c.exists_obey_eq a
  rw [hobey]
  cases htried : c.tried a with
  | error f => exact .inl ⟨f, rfl, rfl⟩
  | ok i =>
    have hattempt : attempt (.ok i) c.machine c.devices = perform i c.machine.tick c.devices := rfl
    rw [hattempt]
    cases hperform : perform i c.machine.tick c.devices with
    | mk result devices =>
      cases result with
      | error f => exact .inl ⟨f, rfl, rfl⟩
      | ok m => exact .inr ⟨i, rfl, rfl, hperform⟩

/-- What a command does whose instruction takes effect. -/
theorem obey_of_perform {c : Console κ σ ρ} {a : Command} {i : Instruction} {m : Machine}
    {d : Devices κ σ ρ} (htried : c.tried a = .ok i)
    (h : perform i c.machine.tick c.devices = (.ok m, d)) :
    (c.obey a).1 = .ok () ∧ (c.obey a).2.machine = m := by
  obtain ⟨notices, hobey⟩ := c.exists_obey_eq a
  rw [hobey, htried]
  unfold attempt
  simp only [h]
  exact ⟨rfl, rfl⟩

theorem program_finish {κ σ ρ : Type} (c : Console κ σ ρ)
    (outcome : Except Fault Machine × Devices κ σ ρ) :
    (c.finish outcome).2.program = c.program := by
  obtain ⟨result, devices⟩ := outcome
  cases result <;> rfl

/-- No command touches the program that a reset puts back. -/
theorem program_obey (c : Console κ σ ρ) (a : Command) : (c.obey a).2.program = c.program := by
  obtain ⟨notices, hobey⟩ := c.exists_obey_eq a
  rw [hobey, program_finish]
  rfl

/-- The console after an operation, whether or not it failed. -/
def operate (c : Console κ σ ρ) : Operation → Console κ σ ρ
  | .command a => (c.obey a).2
  | .load values => (c.load values).2
  | .loadFile file contents => (c.loadFile file contents).2
  | .reset => c.reset
  | .screen call => c.mapScreen fun s => (Screen.answer s call).2

theorem exists_calls_operate (c : Console κ σ ρ) (op : Operation) :
    ∃ calls, (c.operate op).devices.screen = after Screen.answer c.devices.screen calls := by
  cases op with
  | command a => exact exists_calls_obey c a
  | load values =>
    refine ⟨[], ?_⟩
    show (c.load values).2.devices.screen = c.devices.screen
    unfold load
    split <;> rfl
  | loadFile file contents =>
    refine ⟨[], ?_⟩
    cases contents <;> rfl
  | reset => exact ⟨[.clear], rfl⟩
  | screen call => exact ⟨[call], rfl⟩

/-- A console does nothing to its screen but call it. -/
theorem exists_calls_operations (c : Console κ σ ρ) (ops : List Operation) :
    ∃ calls, (ops.foldl operate c).devices.screen = after Screen.answer c.devices.screen calls := by
  induction ops generalizing c with
  | nil => exact ⟨[], rfl⟩
  | cons op rest ih =>
    obtain ⟨first, hfirst⟩ := exists_calls_operate c op
    obtain ⟨calls, hcalls⟩ := ih (c.operate op)
    refine ⟨first ++ calls, ?_⟩
    rw [List.foldl_cons, hcalls, hfirst, after_append]

end Console

end Chip8
