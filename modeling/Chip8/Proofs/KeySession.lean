-- Sessions at a console with a key buffer. Time passes, the buffer is asked for
-- its keys or waited at, and instructions are tried. Whatever is done, all keys
-- that were pressed are accounted for.
import Chip8.Proofs.Footprint
import Chip8.Proofs.KeyboardCalls
namespace Chip8

open KeyBuffer (Act Call Accounted Chronological accounted givenKeys givenKeys_map heldBefore
  numberedAnswers)

/-! ## Keys and instructions -/

namespace Instruction

/-- The keys that an instruction takes from a keypad. -/
def keysTaken {κ : Type} [Keypad κ] (i : Instruction) (keypad : κ) : List Int :=
  match i with
  | waitKey _ => (Keypad.wait keypad).1.toOption.toList
  | _ => []

/-- What an instruction asks of a key buffer, pushes and pops apart. -/
def keyActs (i : Instruction) : List (Act Int) := if i.testsKey then [.peek] else []

theorem exists_makes_keypadAfter (i : Instruction) (b : BufferedKeypad Int Rat) :
    ∃ calls, b.keyboard.Makes calls i.keyActs (i.keysTaken b) (i.keypadAfter b).keyboard := by
  cases i
  case waitKey x =>
    obtain ⟨calls, hwait⟩ := b.exists_makes_wait
    have hkey : (Keypad.wait b).1 = b.wait.1 := by
      show b.wait.1 >>= Except.ok = b.wait.1
      cases b.wait.1 <;> rfl
    refine ⟨calls, ?_⟩
    show b.keyboard.Makes calls [] (Keypad.wait b).1.toOption.toList b.wait.2.keyboard
    rw [hkey]
    exact hwait
  case skipKeyPressed | skipKeyNotPressed =>
    exact ⟨_, Keyboard.Makes.call b.keyboard .peek nofun⟩
  all_goals exact ⟨[], .none le_rfl rfl rfl⟩

end Instruction

section
variable {κ σ ρ : Type} [Keypad κ]

/-- A wait that is carried out puts the key that it takes into its register. -/
theorem keysTaken_of_takeKey {m m' : Machine} {d d' : Devices κ σ ρ} {x : Int}
    (h : takeKey m x d = (.ok m', d')) :
    (Instruction.waitKey x).keysTaken d.keypad = [((m'.reg x).toNat : Int)] := by
  unfold takeKey at h
  simp only at h
  split at h
  · cases h
  · rename_i key hkey
    split at h
    · rename_i hbyte
      cases h
      have hvalue : ((key.toNat.toUInt8).toNat : Int) = key := by
        rw [Nat.toUInt8_eq, UInt8.toNat_ofNat']
        omega
      simp only [Instruction.keysTaken, hkey, Except.toOption, Option.toList_some,
        Machine.reg_setReg_self, hvalue]
    · cases h

end

/-! ## Cycles that may fail -/

section
variable {κ σ ρ : Type} [Keypad κ]

/-- The keys that are taken by a cycle with an instruction, if it comes to one. -/
def keysTried (tried : Except Fault Instruction) (keypad : κ) : List Int :=
  match tried with
  | .ok i => i.keysTaken keypad
  | .error _ => []

def actsTried (tried : Except Fault Instruction) : List (Act Int) :=
  match tried with
  | .ok i => i.keyActs
  | .error _ => []

/-- The keypad after such a cycle, whether or not it succeeds in the end. -/
def keypadTried (tried : Except Fault Instruction) (keypad : κ) : κ :=
  match tried with
  | .ok i => i.keypadAfter keypad
  | .error _ => keypad

variable [Screen σ] [RandomSource ρ] (c : Console κ σ ρ)

theorem Console.keypad_step :
    c.step.2.devices.keypad = keypadTried c.machine.upcoming c.devices.keypad := by
  unfold Console.step Chip8.step
  rw [devices_finish, Machine.upcoming_tick]
  cases c.machine.upcoming with
  | error => rfl
  | ok i => exact keypad_effect i _ _

theorem Console.keypad_execute (i : Instruction) :
    (c.execute i).2.devices.keypad = keypadTried i.validate c.devices.keypad := by
  unfold Console.execute Chip8.execute
  rw [devices_finish]
  cases i.validate with
  | error => rfl
  | ok i => exact keypad_effect i _ _

end

/-! ## Sessions -/

def Console.keyboard {σ ρ : Type} (c : Console (BufferedKeypad Int Rat) σ ρ) : Keyboard Int Rat :=
  c.devices.keypad.keyboard

def Console.withKeypad {κ σ ρ : Type} (c : Console κ σ ρ) (keypad : κ) : Console κ σ ρ :=
  { c with devices := { c.devices with keypad } }

section
variable {σ ρ : Type} [Screen σ] [RandomSource ρ]

/-- What can be done at a console with a key buffer. A move tells what it asks
of the buffer beside pushes and pops, and which keys it hands over. -/
inductive KeyMove : Console (BufferedKeypad Int Rat) σ ρ → List (Act Int) → List Int →
    Console (BufferedKeypad Int Rat) σ ρ → Prop where
  /-- Time passes, and keys are pressed in it. -/
  | pass (c : Console (BufferedKeypad Int Rat) σ ρ) (span : Rat) :
    KeyMove c [] [] (c.withKeypad { c.devices.keypad with keyboard := c.keyboard.advance span })
  /-- The buffer is called by hand. -/
  | call (c : Console (BufferedKeypad Int Rat) σ ρ) (act : Act Int)
    (hact : ∀ key, act ≠ .push key) :
    KeyMove c (Keyboard.asked [⟨act, c.keyboard.now⟩])
      (c.keyboard.buffer.perform ⟨act, c.keyboard.now⟩).1.given?.toList
      (c.withKeypad { c.devices.keypad with
        keyboard := { c.keyboard with
          buffer := (c.keyboard.buffer.perform ⟨act, c.keyboard.now⟩).2 } })
  /-- A key is waited for by hand. -/
  | wait (c : Console (BufferedKeypad Int Rat) σ ρ) :
    KeyMove c [] c.devices.keypad.wait.1.toOption.toList (c.withKeypad c.devices.keypad.wait.2)
  /-- The instruction at the program counter is tried. -/
  | step (c : Console (BufferedKeypad Int Rat) σ ρ) :
    KeyMove c (actsTried c.machine.upcoming) (keysTried c.machine.upcoming c.devices.keypad)
      c.step.2
  /-- An instruction given by hand is tried. -/
  | execute (c : Console (BufferedKeypad Int Rat) σ ρ) (i : Instruction) :
    KeyMove c (actsTried i.validate) (keysTried i.validate c.devices.keypad) (c.execute i).2

/-- Moves one after the other, with all that they ask and all keys that they
hand over. -/
inductive KeySession : Console (BufferedKeypad Int Rat) σ ρ → List (Act Int) → List Int →
    Console (BufferedKeypad Int Rat) σ ρ → Prop where
  | nil (c : Console (BufferedKeypad Int Rat) σ ρ) : KeySession c [] [] c
  | cons {c c' c'' : Console (BufferedKeypad Int Rat) σ ρ} {acts acts' : List (Act Int)}
    {keys keys' : List Int} (first : KeyMove c acts keys c')
    (rest : KeySession c' acts' keys' c'') :
    KeySession c (acts ++ acts') (keys ++ keys') c''

variable {c c' : Console (BufferedKeypad Int Rat) σ ρ} {acts : List (Act Int)} {keys : List Int}

theorem exists_makes_tried (tried : Except Fault Instruction) (b : BufferedKeypad Int Rat) :
    ∃ calls, b.keyboard.Makes calls (actsTried tried) (keysTried tried b)
      (keypadTried tried b).keyboard := by
  cases tried with
  | error => exact ⟨[], .none le_rfl rfl rfl⟩
  | ok i => exact i.exists_makes_keypadAfter b

theorem KeyMove.exists_makes (h : KeyMove c acts keys c') :
    ∃ calls, c.keyboard.Makes calls acts keys c'.keyboard := by
  cases h with
  | pass span => exact c.keyboard.exists_makes_advance span
  | call act hact => exact ⟨_, .call c.keyboard act hact⟩
  | wait => exact c.devices.keypad.exists_makes_wait
  | step =>
    unfold Console.keyboard
    rw [c.keypad_step]
    exact exists_makes_tried _ _
  | execute i =>
    unfold Console.keyboard
    rw [c.keypad_execute]
    exact exists_makes_tried _ _

theorem KeySession.exists_makes (h : KeySession c acts keys c') :
    ∃ calls, c.keyboard.Makes calls acts keys c'.keyboard := by
  induction h with
  | nil c => exact ⟨[], .none le_rfl rfl rfl⟩
  | cons first _ ih =>
    obtain ⟨calls, hfirst⟩ := first.exists_makes
    obtain ⟨calls', hrest⟩ := ih
    exact ⟨calls ++ calls', hfirst.trans hrest⟩

end

end Chip8
