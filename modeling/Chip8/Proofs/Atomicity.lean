-- A fault changes nothing: an instruction that fails has not begun to take
-- effect, whichever way it was given. Only a wait for a key may have used the
-- keypad by then.
import Chip8.Proofs.Failure
namespace Chip8

open Instruction

/-! ## One instruction -/

section
variable {κ σ ρ : Type} [Keypad κ] {m : Machine} {d d' : Devices κ σ ρ} {i : Instruction}
variable {f : Fault}

/-- What a failure leaves of the devices. -/
theorem Failure.devices (h : Failure m d i f d') :
    d'.screen = d.screen ∧ d'.random = d.random ∧
      ((∀ x, i ≠ waitKey x) → d'.keypad = d.keypad) := by
  cases h with
  | pop | push | reach => exact ⟨rfl, rfl, fun _ => rfl⟩
  | wait x | key x => exact ⟨rfl, rfl, fun hi => absurd rfl (hi x)⟩

end

namespace Console

/-- What a fault leaves of a console: the machine as it was, with nothing of
the instruction done, and the devices as they were. Where the instruction
`waits` for a key, the keypad may have changed. -/
structure Spared {κ σ ρ : Type} (waits : Prop) (c c' : Console κ σ ρ) : Prop where
  machine : c'.machine = c.machine
  program : c'.program = c.program
  screen : c'.devices.screen = c.devices.screen
  random : c'.devices.random = c.devices.random
  keypad : ¬ waits → c'.devices.keypad = c.devices.keypad

/-- A list that is left with a fault was gone through up to the element that
met it. -/
theorem untilFault_eq_error {κ σ ρ α : Type} {c c' : Console κ σ ρ} {f : Fault}
    {act : Console κ σ ρ → α → Except Fault Unit × Console κ σ ρ} {as : List α}
    (h : c.untilFault act as = (.error f, c')) :
    ∃ front a back pause, as = front ++ a :: back ∧
      c.untilFault act front = (.ok (), pause) ∧ act pause a = (.error f, c') := by
  induction as generalizing c with
  | nil => cases h
  | cons a rest ih =>
    unfold untilFault at h
    split at h
    · rename_i c1 hfirst
      obtain ⟨front, b, back, pause, rfl, hfront, hb⟩ := ih h
      refine ⟨a :: front, b, back, pause, rfl, ?_, hb⟩
      unfold untilFault
      rw [hfirst]
      exact hfront
    · rename_i g c1 hfirst
      cases h
      exact ⟨[], a, rest, c, rfl, rfl, hfirst⟩

variable {κ σ ρ : Type} [Keypad κ] [Screen σ] [RandomSource ρ]
variable {c c' : Console κ σ ρ} {f : Fault}

theorem spared_of_step (h : c.step = (.error f, c')) :
    Spared (∃ x, c.machine.Holds (waitKey x)) c c' := by
  obtain ⟨hstep, hmachine, hprogram⟩ := finish_eq_error h
  rcases step_eq_error_iff.1 hstep with ⟨-, hdevices⟩ | ⟨i, hi, hfail⟩
  · refine ⟨hmachine, hprogram, ?_, ?_, fun _ => ?_⟩ <;> rw [hdevices]
  · obtain ⟨hscreen, hrandom, hkeypad⟩ := hfail.devices
    refine ⟨hmachine, hprogram, hscreen, hrandom, fun hwaits => hkeypad fun x hx => ?_⟩
    subst hx
    exact hwaits ⟨x, hi⟩

/-- Operands are checked before anything else happens. -/
theorem spared_of_execute {i : Instruction} (h : c.execute i = (.error f, c')) :
    Spared (∃ x, i = waitKey x) c c' := by
  obtain ⟨hexec, hmachine, hprogram⟩ := finish_eq_error h
  unfold Chip8.execute at hexec
  split at hexec
  · obtain ⟨-, hdevices⟩ := Prod.mk.inj hexec
    refine ⟨hmachine, hprogram, ?_, ?_, fun _ => ?_⟩ <;> rw [← hdevices]
  · rename_i j hvalid
    obtain ⟨hlegal, rfl⟩ := validate_eq_ok_iff.1 hvalid
    obtain ⟨hscreen, hrandom, hkeypad⟩ := (failure_of_effect hlegal hexec).devices
    exact ⟨hmachine, hprogram, hscreen, hrandom, fun hwaits => hkeypad fun x hx => hwaits ⟨x, hx⟩⟩

theorem spared_of_executeWord {w : Int} (h : c.executeWord w = (.error f, c')) :
    Spared (∃ x, ofWord w = .ok (waitKey x)) c c' := by
  unfold executeWord at h
  split at h
  · rename_i i hread
    obtain ⟨hmachine, hprogram, hscreen, hrandom, hkeypad⟩ := spared_of_execute h
    refine ⟨hmachine, hprogram, hscreen, hrandom, fun hwaits => hkeypad ?_⟩
    rintro ⟨x, rfl⟩
    exact hwaits ⟨x, hread⟩
  · cases h
    exact ⟨rfl, rfl, rfl, rfl, fun _ => rfl⟩

/-- A fault is atomic: the machine, the picture and the random numbers are as
before the instruction that failed, and so is the keypad unless this
instruction waited for a key. Of instructions one after the other, all before
the failing one have had their effects, and none after it. -/
theorem fault_is_atomic (c : Console κ σ ρ) :
    (∀ f c', c.step = (.error f, c') → Spared (∃ x, c.machine.Holds (waitKey x)) c c') ∧
    (∀ i f c', c.execute i = (.error f, c') → Spared (∃ x, i = waitKey x) c c') ∧
    (∀ w f c', c.executeWord w = (.error f, c') →
      Spared (∃ x, ofWord w = .ok (waitKey x)) c c') ∧
    (∀ is f c', c.executeMany is = (.error f, c') →
      ∃ front i back pause, is = front ++ i :: back ∧ c.executeMany front = (.ok (), pause) ∧
        pause.execute i = (.error f, c') ∧ Spared (∃ x, i = waitKey x) pause c') := by
  refine ⟨fun f c' => spared_of_step, fun i f c' => spared_of_execute,
    fun w f c' => spared_of_executeWord, fun is f c' h => ?_⟩
  obtain ⟨front, i, back, pause, his, hfront, hi⟩ := untilFault_eq_error h
  exact ⟨front, i, back, pause, his, hfront, hi, spared_of_execute hi⟩

/-- A key that is not a byte stops the second of three instructions: the first
one was done, and the screen was not cleared. A sprite that would leave memory
is refused, and a full word is no instruction. -/
theorem fault_leaves_what_came_before :
    ∃ c c' e e' : Console HeldKeypad Grid Splitting,
      c.executeMany [setConst 0 5, waitKey 1, clearScreen] = (.error (.keyNotByte 300), c') ∧
      (∃ front i back pause, [setConst 0 5, waitKey 1, clearScreen] = front ++ i :: back ∧
        c.executeMany front = (.ok (), pause) ∧ pause.execute i = (.error (.keyNotByte 300), c') ∧
        Spared (∃ x, i = waitKey x) pause c') ∧
      c.executeWord 0xFFFF = (.error (.unknownOpcode 0xFFFF none), e) ∧
      e.devices.keypad = c.devices.keypad ∧
      (c.execute (setIndex 0xFFF)).2.execute (draw 0 0 2) = (.error (.memoryAccess 0xFFF 2), e') ∧
      e'.machine = (c.execute (setIndex 0xFFF)).2.machine := by
  let c : Console HeldKeypad Grid Splitting := Console.new ⟨⟨300⟩, .standard, ⟨⟨0, 0⟩⟩⟩
  have hmany : c.executeMany [setConst 0 5, waitKey 1, clearScreen] =
      (.error (.keyNotByte 300), (c.executeMany [setConst 0 5, waitKey 1, clearScreen]).2) := rfl
  have hword : c.executeWord 0xFFFF =
      (.error (.unknownOpcode 0xFFFF none), (c.executeWord 0xFFFF).2) := rfl
  have hdraw : (c.execute (setIndex 0xFFF)).2.execute (draw 0 0 2) =
      (.error (.memoryAccess 0xFFF 2), ((c.execute (setIndex 0xFFF)).2.execute (draw 0 0 2)).2) :=
    rfl
  refine ⟨c, _, _, _, hmany, (fault_is_atomic c).2.2.2 _ _ _ hmany, hword, ?_, hdraw, ?_⟩
  · exact ((fault_is_atomic c).2.2.1 _ _ _ hword).keypad (by rintro ⟨x, h⟩; cases h)
  · exact ((fault_is_atomic _).2.1 _ _ _ hdraw).machine

end Console

end Chip8
