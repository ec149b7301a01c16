-- A stepped run and the same instructions given by hand: consoles with the
-- same machine and devices stay that way, and their faults are the same.
import Chip8.Proofs.Run
namespace Chip8

/-! ## Consoles that are alike -/

/-- Two consoles with the same machine and the same devices: the keypad, the
picture and the place in the random numbers. What they were told and what a
reset would load may differ. -/
structure Console.Alike {κ σ ρ : Type} (c e : Console κ σ ρ) : Prop where
  machine : e.machine = c.machine
  devices : e.devices = c.devices

namespace Console

/-- A cycle ends alike on consoles that are alike. -/
theorem Alike.finish {κ σ ρ : Type} {c e : Console κ σ ρ} (h : c.Alike e)
    (outcome : Except Fault Machine × Devices κ σ ρ) :
    (e.finish outcome).1 = (c.finish outcome).1 ∧
      (c.finish outcome).2.Alike (e.finish outcome).2 := by
  unfold Console.finish
  split
  · exact ⟨rfl, rfl, rfl⟩
  · exact ⟨rfl, h.machine, rfl⟩

/-- The journal has no say in what a console is like. -/
theorem Alike.tell {κ σ ρ : Type} {c e : Console κ σ ρ} (h : c.Alike e)
    (heard told : List Notice) : (c.tell heard).Alike (e.tell told) :=
  ⟨h.machine, h.devices⟩

variable {κ σ ρ : Type} [Keypad κ] [Screen σ] [RandomSource ρ]
variable {c c' e : Console κ σ ρ} {i : Instruction}

/-- Consoles that are alike answer an instruction alike and stay alike. -/
theorem Alike.execute (h : c.Alike e) (i : Instruction) :
    (e.execute i).1 = (c.execute i).1 ∧ (c.execute i).2.Alike (e.execute i).2 := by
  unfold Console.execute
  rw [h.machine, h.devices]
  exact (h.tell _ _).finish _

theorem Alike.execute_eq (h : c.Alike e) {answer : Except Fault Unit}
    (hi : c.execute i = (answer, c')) : ∃ e', e.execute i = (answer, e') ∧ c'.Alike e' := by
  obtain ⟨hanswer, halike⟩ := h.execute i
  rw [hi] at hanswer halike
  exact ⟨(e.execute i).2, Prod.ext hanswer rfl, halike⟩

end Console

/-! ## Runs given by hand -/

section
variable {κ σ ρ : Type} [Keypad κ] [Screen σ] [RandomSource ρ]
variable {c c' e : Console κ σ ρ} {trace : List (Deed κ σ ρ)}

/-- The instructions of a run lead to where the run led. -/
theorem Run.executeMany (h : Run Console.Executed c trace c') (he : c.Alike e) :
    ∃ e', e.executeMany (trace.map Deed.instruction) = (.ok (), e') ∧ c'.Alike e' := by
  induction h generalizing e with
  | nil c => exact ⟨e, rfl, he⟩
  | cons first _ ih =>
    obtain ⟨e1, hfirst, he1⟩ := he.execute_eq first
    obtain ⟨e', hrest, he'⟩ := ih he1
    refine ⟨e', ?_, he'⟩
    unfold Console.executeMany at hrest ⊢
    rw [List.map_cons, Console.untilFault, hfirst]
    exact hrest

/-- The instructions that a run fetched lead through the same states when they
are given by hand to a console that is alike, up to any pause of the run. A
fault of the instruction that is fetched next is the same, too. -/
theorem stepped_run_replays (h : Run Console.Stepped c trace c') (he : c.Alike e) :
    (∀ front back, trace = front ++ back → ∃ pause e',
      Run Console.Stepped c front pause ∧ Run Console.Stepped pause back c' ∧
      e.executeMany (front.map Deed.instruction) = (.ok (), e') ∧ pause.Alike e') ∧
    ∃ e', e.executeMany (trace.map Deed.instruction) = (.ok (), e') ∧ c'.Alike e' ∧
      ∀ i f c'', c'.machine.upcoming = .ok i → c'.step = (.error f, c'') →
        ∃ e'', e'.execute i = (.error f, e'') ∧ c''.Alike e'' := by
  constructor
  · rintro front back rfl
    obtain ⟨pause, hfront, hback⟩ := Run.append_iff.1 h
    obtain ⟨e', hmany, he'⟩ := (hfront.mono fun first => first.executed).executeMany he
    exact ⟨pause, e', hfront, hback, hmany, he'⟩
  · obtain ⟨e', hmany, he'⟩ := (h.mono fun first => first.executed).executeMany he
    refine ⟨e', hmany, he', fun i f c'' hi hstep => ?_⟩
    rw [Console.step_eq_execute hi] at hstep
    exact he'.execute_eq hstep

/-- The run of `60FF F10A 00EE` stops at the return, which nobody called for,
and so does its replay. -/
theorem stepped_run_replays_up_to_a_fault :
    ∃ (c' e' e'' : Console SilentKeypad Grid Splitting) (trace : List (Deed _ _ _)),
      Run Console.Stepped (loaded [0x60, 0xFF, 0xF1, 0x0A, 0x00, 0xEE]) trace c' ∧
      trace.length = 2 ∧ (c'.step).1 = .error .stackUnderflow ∧
      Console.executeMany { loaded [0x60, 0xFF, 0xF1, 0x0A, 0x00, 0xEE] with program := [] }
        [.setConst 0 0xFF, .waitKey 1] = (.ok (), e') ∧
      c'.Alike e' ∧ e'.execute .ret = (.error .stackUnderflow, e'') := by
  let start := loaded [0x60, 0xFF, 0xF1, 0x0A, 0x00, 0xEE]
  let set := (start.execute (.setConst 0 0xFF)).2
  let answered := (set.execute (.waitKey 1)).2
  have hset : start.machine.upcoming = .ok (.setConst 0 0xFF) :=
    Machine.upcoming_load (k := 0) rfl rfl (by decide) (by decide) (by decide)
  have hwait : set.machine.upcoming = .ok (.waitKey 1) :=
    Machine.upcoming_load (k := 2) rfl rfl (by decide) (by decide) (by decide)
  have hret : answered.machine.upcoming = .ok .ret :=
    Machine.upcoming_load (k := 4) rfl rfl (by decide) (by decide) (by decide)
  have hfirst : start.Executed (.setConst 0 0xFF) set := rfl
  have hsecond : set.Executed (.waitKey 1) answered := rfl
  have hrun := Run.cons (hfirst.stepped hset) (.cons (hsecond.stepped hwait) (.nil _))
  have hfault : answered.step = (.error .stackUnderflow, answered.step.2) := by
    rw [Console.step_eq_execute hret]
    rfl
  obtain ⟨-, e', hmany, he', hnext⟩ := stepped_run_replays hrun
    (e := { start with program := [] }) ⟨rfl, rfl⟩
  obtain ⟨e'', hexecute, -⟩ := hnext _ _ _ hret hfault
  exact ⟨answered, e', e'', _, hrun, rfl, congrArg Prod.fst hfault, hmany, he', hexecute⟩

end

end Chip8
