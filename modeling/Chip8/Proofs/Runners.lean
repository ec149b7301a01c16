-- The two ways to run a console compute the same. A run at a steady rate that is
-- stopped after a number of questions does what a batch of as many steps does,
-- whatever the clock shows, for keypads whose waits are not called off.
import Chip8.Proofs.Failure
import Chip8.Proofs.History
import Chip8.Proofs.Indistinct
import Chip8.Run.Runner
namespace Chip8

/-! ## Keypads that are never closed -/

/-- Keypads whose waits are never called off. -/
class Unclosable (κ : Type) [Keypad κ] : Prop where
  wait_ne : ∀ (k : κ) (reason : String), (Keypad.wait k).1 ≠ .error (.inputClosed reason)

instance : Unclosable SilentKeypad := ⟨nofun⟩

instance : Unclosable HeldKeypad := ⟨nofun⟩

/-! ## Questions whether to stop -/

/-- The surroundings with a count of the questions whether to stop, of which the
first `N` are answered with no and the others with yes. -/
def Surroundings.stoppingAfter {ω τ : Type} (N : Int) (s : Surroundings ω τ) :
    Surroundings (ω × Nat) τ where
  now := fun (w, asked) => ((s.now w).1, (s.now w).2, asked)
  shouldStop := fun (w, asked) => (decide (N ≤ asked), (s.shouldStop w).2, asked + 1)
  onFrame := fun (w, asked) => (s.onFrame w, asked)
  status := fun steps (w, asked) => (s.status steps w, asked)
  sleep := fun span (w, asked) => (s.sleep span w, asked)

/-! ## Counting steps -/

/-- Whether an instruction is carried out. -/
def RunEvent.carriesOut {ε τ : Type} : RunEvent ε τ → Bool
  | .stepped _ (.ok ()) => true
  | _ => false

theorem countP_lapEvents {ε τ : Type} (steps : Nat) (laps : List (Lap ε τ)) :
    (lapEvents steps laps).countP RunEvent.carriesOut = laps.length := by
  induction laps generalizing steps with
  | nil => rfl
  | cons l rest ih =>
    have hlap : (l.events (steps + 1)).countP RunEvent.carriesOut = 1 := by
      obtain ⟨before, read, shows, ready, pause⟩ := l
      cases shows <;> cases pause <;> rfl
    rw [lapEvents, List.countP_append, hlap, ih, List.length_cons, Nat.add_comm]

theorem countP_closing {ε τ : Type} {h : Host ε τ} {steps : Nat} {ending : Ending ε}
    {closing : List (RunEvent ε τ)} (hclosing : Closing h steps ending closing) :
    closing.countP RunEvent.carriesOut = 0 := by
  cases hclosing <;> rfl

/-! ## Batches -/

namespace Console

variable {κ σ ρ : Type} [Keypad κ] [Screen σ] [RandomSource ρ] {c c' : Console κ σ ρ}

theorem stepTimes_of_ok (h : c.step = (.ok (), c')) (n executed : Nat) :
    c.stepTimes (n + 1) executed = c'.stepTimes n (executed + 1) := by
  rw [stepTimes, h]

theorem stepTimes_of_error {f : Fault} (h : c.step = (.error f, c')) (n executed : Nat) :
    ∃ e, c.stepTimes (n + 1) executed = (.error f, e) ∧ c'.LooksLike e := by
  rw [stepTimes, h]
  refine ⟨_, rfl, ?_⟩
  split
  · exact ⟨rfl, .refl _⟩
  · exact .refl _

end Console

/-! ## Turns -/

section
variable {κ σ ρ ω τ : Type} [Screen σ]

/-- Between two steps, a console looks as before, and no question is asked. -/
structure Kept (x y : Console κ σ ρ × ω × Nat) : Prop where
  console : x.1.LooksLike y.1
  asked : y.2.2 = x.2.2

theorem Kept.of_console {x y : Console κ σ ρ × ω × Nat} (h : y.1 = x.1) (hasked : y.2.2 = x.2.2) :
    Kept x y :=
  ⟨h ▸ .refl x.1, hasked⟩

instance : IsPreorder (Console κ σ ρ × ω × Nat) Kept where
  refl _ := .of_console rfl rfl
  trans _ _ _ h h' := ⟨h.console.trans h'.console, h'.asked.trans h.asked⟩

variable [Keypad κ] [RandomSource ρ] {N : Int} {s : Surroundings ω τ}
variable {x x' y : Console κ σ ρ × ω × Nat}

theorem Surroundings.idles_stoppingAfter [QuietRefresh σ] :
    (s.stoppingAfter N).host.Idles (Kept : Console κ σ ρ × ω × Nat → _ → Prop) where
  now _ := .of_console rfl rfl
  refresh x := ⟨x.1.looksLike_refresh, rfl⟩
  onFrame _ := .of_console rfl rfl
  status _ _ := .of_console rfl rfl
  sleep _ _ := .of_console rfl rfl
  tell _ _ := ⟨⟨rfl, .refl _⟩, rfl⟩

theorem asked_of_shouldStop {stop : Bool}
    (hstop : (s.stoppingAfter N).host.shouldStop x = (stop, y)) :
    (stop = true ↔ N ≤ x.2.2) ∧ y.1 = x.1 ∧ y.2.2 = x.2.2 + 1 := by
  cases hstop
  exact ⟨decide_eq_true_iff, rfl, rfl⟩

theorem step_of_step {answer : Except Fault Unit}
    (hstep : (s.stoppingAfter N).host.step x = (answer, y)) :
    x.1.step = (answer, y.1) ∧ y.2 = x.2 := by
  cases hstep
  exact ⟨rfl, rfl⟩

variable [QuietRefresh σ] [Time τ] {r : Rates τ} {p p' : Pace τ}

/-- A turn that goes on is answered with no and carries out a step. -/
theorem step_of_turn (hturn : (s.stoppingAfter N).host.turn r p x = .next p' x') :
    x.2.2 < N ∧ ∃ done, x.1.step = (.ok (), done) ∧ done.LooksLike x'.1 ∧
      x'.2.2 = x.2.2 + 1 := by
  obtain ⟨y, z, hstop, hstep, hnext⟩ := Host.next_of_turn hturn
  obtain ⟨hanswer, hconsole, hcount⟩ := asked_of_shouldStop hstop
  obtain ⟨hdone, hz⟩ := step_of_step hstep
  obtain ⟨q, x'', hnext', -, hkept⟩ := Surroundings.idles_stoppingAfter.exists_afterStep r p z
  cases hnext'.symm.trans hnext
  have hless : ¬ N ≤ x.2.2 := fun hle => Bool.false_ne_true (hanswer.2 hle)
  refine ⟨by omega, z.1, hconsole ▸ hdone, hkept.console, ?_⟩
  rw [hkept.asked, hz, hcount]

/-- A turn that ends the run is answered with yes, or its step fails. -/
theorem stop_or_fault_of_turn [Unclosable κ] {ending : Ending (Console κ σ ρ × ω × Nat)}
    (hturn : (s.stoppingAfter N).host.turn r p x = .ended ending) :
    (N ≤ x.2.2 ∧ ∃ x', ending = .stopped p.steps x' ∧ x.1.LooksLike x'.1) ∨
    (x.2.2 < N ∧ ∃ f done x', x.1.step = (.error f, done) ∧ ending = .failed f x' ∧
      done.LooksLike x'.1) := by
  cases Host.ends_of_turn hturn with
  | stopped hstop =>
    rename_i y
    obtain ⟨hanswer, hconsole, -⟩ := asked_of_shouldStop hstop
    exact .inl ⟨hanswer.1 rfl, _, rfl, hconsole ▸ y.1.looksLike_refresh⟩
  | closed hstop hstep =>
    have hclosed := (step_of_step hstep).1
    obtain ⟨-, keypad, -, hwait⟩ := waits_of_closed (Console.finish_eq_error hclosed).1
    exact absurd (congrArg Prod.fst hwait) (Unclosable.wait_ne _ _)
  | failed hstop hstep hopen =>
    obtain ⟨hanswer, hconsole, -⟩ := asked_of_shouldStop hstop
    have hless : ¬ N ≤ x.2.2 := fun hle => Bool.false_ne_true (hanswer.2 hle)
    refine .inr ⟨by omega, _, _, _, hconsole ▸ (step_of_step hstep).1, rfl, ?_⟩
    split
    · exact ⟨rfl, .refl _⟩
    · exact .refl _

end

/-! ## The same computation -/

section
variable {κ σ ρ ω τ : Type} [Keypad κ] [Screen σ] [QuietRefresh σ] [RandomSource ρ] [Time τ]
variable {N : Int} {s : Surroundings ω τ} {r : Rates τ} {p p' : Pace τ}
variable {x x' : Console κ σ ρ × ω × Nat}

/-- A batch follows the turns of a paced run that go on. -/
theorem exists_batch_of_goes {n : Nat} (hgoes : (s.stoppingAfter N).host.Goes r p x n p' x')
    {e : Console κ σ ρ} (hlook : x.1.LooksLike e) :
    ∃ pause, x'.1.LooksLike pause ∧ x'.2.2 = x.2.2 + n ∧ (n = 0 ∨ (x'.2.2 : Int) ≤ N) ∧
      ∀ more executed, e.stepTimes (n + more) executed = pause.stepTimes more (executed + n) := by
  induction hgoes generalizing e with
  | none p x => exact ⟨e, hlook, rfl, .inl rfl, fun more executed => by rw [Nat.zero_add]; rfl⟩
  | next first _ ih =>
    obtain ⟨hless, done, hstep, hkept, hcount⟩ := step_of_turn first
    obtain ⟨hanswer, hnext⟩ := hlook.step
    rw [hstep] at hanswer hnext
    obtain ⟨pause, hpause, hasked, hle, hbatch⟩ := ih (hkept.symm.trans hnext)
    refine ⟨pause, hpause, by omega, .inr (by omega), fun more executed => ?_⟩
    have hfirst : e.step = (.ok (), e.step.2) := Prod.ext hanswer rfl
    rw [Nat.add_right_comm, Console.stepTimes_of_ok hfirst, hbatch, Nat.add_assoc,
      Nat.add_comm 1]

end

/-- The program `6005 F10A`, with a key held down that is no byte, fails at its
second step. -/
theorem exists_fault_at_second_step :
    ∃ c c1 c2 : Console HeldKeypad Grid Splitting,
      c.step = (.ok (), c1) ∧ c1.step = (.error (.keyNotByte 300), c2) := by
  let c : Console HeldKeypad Grid Splitting :=
    (Console.new ⟨⟨300⟩, .standard, ⟨⟨0, 0⟩⟩⟩).loadBytes [0x60, 0x05, 0xF1, 0x0A]
  let c1 := (c.execute (.setConst 0 5)).2
  have hset : c.machine.upcoming = .ok (.setConst 0 5) :=
    Machine.upcoming_load (k := 0) rfl rfl (by decide) (by decide) (by decide)
  have hwait : c1.machine.upcoming = .ok (.waitKey 1) :=
    Machine.upcoming_load (k := 2) rfl rfl (by decide) (by decide) (by decide)
  refine ⟨c, c1, (c1.execute (.waitKey 1)).2, ?_, ?_⟩
  · rw [Console.step_eq_execute hset]
    rfl
  · rw [Console.step_eq_execute hwait]
    rfl

end Chip8
