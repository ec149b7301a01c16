-- A machine with its devices, its program and a journal. A fault leaves the
-- machine as it was before the instruction.
import Chip8.Cycle
namespace Chip8

/-- A machine that is wired up. -/
structure Console (κ σ ρ : Type) where
  machine : Machine
  devices : Devices κ σ ρ
  /-- The program that a reset puts back into memory. -/
  program : List UInt8
  /-- What was told, the latest in front. -/
  journal : List Notice

namespace Console

variable {κ σ ρ : Type}

/-- A machine at power-on without a program. -/
def new (devices : Devices κ σ ρ) : Console κ σ ρ := ⟨.initial, devices, [], []⟩

/-- The console with notices in the journal. -/
def tell (c : Console κ σ ρ) (notices : List Notice) : Console κ σ ρ :=
  { c with journal := notices.reverse ++ c.journal }

/-! ## Programs -/

/-- What is told when a program is put into memory. -/
def loadNotices (program : List UInt8) : List Notice :=
  if maxProgramSize < program.length then [.programTruncated program.length maxProgramSize]
  else []

/-- Puts a program into memory. -/
def overlay (c : Console κ σ ρ) (program : List UInt8) : Console κ σ ρ :=
  { c with machine := c.machine.load program }.tell (loadNotices program)

/-- The bytes that some numbers are, if all of them are bytes. -/
def bytes? (values : List Int) : Option (List UInt8) :=
  values.mapM fun v => if 0 ≤ v ∧ v ≤ 0xFF then some v.toNat.toUInt8 else none

/-- Puts a program into memory and keeps it for a reset. -/
def loadBytes (c : Console κ σ ρ) (program : List UInt8) : Console κ σ ρ :=
  { c with program }.overlay program

/-- Loads a program given as numbers, if all of them are bytes. -/
def load (c : Console κ σ ρ) (values : List Int) : Except Refusal Unit × Console κ σ ρ :=
  match bytes? values with
  | none => (.error .notBytes, c)
  | some program => (.ok (), c.loadBytes program)

/-- Loads the contents of a file, unless it could not be read. -/
def loadFile (c : Console κ σ ρ) (file : String) (contents : Except Refusal (List UInt8)) :
    Except Refusal Unit × Console κ σ ρ :=
  match contents with
  | .error r => (.error r, c)
  | .ok program => (.ok (), (c.loadBytes program).tell [.programRead program.length file])

/-- Puts the contents of a file into memory and does not keep them. -/
def overlayFile (c : Console κ σ ρ) (file : String) (contents : Except Refusal (List UInt8)) :
    Except Refusal Unit × Console κ σ ρ :=
  match contents with
  | .error r => (.error r, c)
  | .ok program => (.ok (), (c.tell [.programRead program.length file]).overlay program)

/-- Power-on with the last program in memory and every pixel out. -/
def reset [Screen σ] (c : Console κ σ ρ) : Console κ σ ρ :=
  let c := { c with machine := .initial }.overlay c.program
  { c with devices := { c.devices with screen := Screen.clear c.devices.screen } }

/-! ## Cycles -/

/-- The console after a cycle. A fault leaves the machine as it was. -/
def finish (c : Console κ σ ρ) (outcome : Except Fault Machine × Devices κ σ ρ) :
    Except Fault Unit × Console κ σ ρ :=
  match outcome with
  | (.ok machine, devices) => (.ok (), { c with machine, devices })
  | (.error f, devices) => (.error f, { c with devices })

/-- What is told when an instruction is carried out. -/
def performNotices [Keypad κ] (c : Console κ σ ρ) (i : Instruction) : List Notice :=
  let waiting := match i with
    | .waitKey _ => (Keypad.announcement c.devices.keypad).toList
    | _ => []
  .executing c.machine.pc i :: waiting

/-- What is told when an instruction given by hand is tried. -/
def executeNotices [Keypad κ] (c : Console κ σ ρ) (i : Instruction) : List Notice :=
  if i.misfit?.isSome then [] else c.performNotices i

/-- What is told when the instruction at the program counter is tried. -/
def stepNotices [Keypad κ] (c : Console κ σ ρ) : List Notice :=
  match c.machine.upcoming with
  | .ok i => c.performNotices i
  | .error (.unknownOpcode word _) => [.unknownOpcode word]
  | .error _ => []

variable [Keypad κ] [Screen σ] [RandomSource ρ]

/-- Carries out the instruction at the program counter. -/
def step (c : Console κ σ ρ) : Except Fault Unit × Console κ σ ρ :=
  (c.tell c.stepNotices).finish (Chip8.step c.machine c.devices)

/-- Carries out an instruction given by hand. -/
def execute (c : Console κ σ ρ) (i : Instruction) : Except Fault Unit × Console κ σ ρ :=
  (c.tell (c.executeNotices i)).finish (Chip8.execute i c.machine c.devices)

/-- Carries out the instruction of a word. -/
def executeWord (c : Console κ σ ρ) (word : Int) : Except Fault Unit × Console κ σ ρ :=
  match Instruction.ofWord word with
  | .ok i => c.execute i
  | .error f => (.error f, c.tell [.unknownOpcode (lowWord word)])

/-- Goes through a list until the first fault. -/
def untilFault {α : Type} (act : Console κ σ ρ → α → Except Fault Unit × Console κ σ ρ) :
    Console κ σ ρ → List α → Except Fault Unit × Console κ σ ρ
  | c, [] => (.ok (), c)
  | c, a :: rest =>
    match act c a with
    | (.ok (), c) => untilFault act c rest
    | (.error f, c) => (.error f, c)

/-- Carries out instructions one after the other until the first fault. -/
def executeMany (c : Console κ σ ρ) (is : List Instruction) :
    Except Fault Unit × Console κ σ ρ :=
  c.untilFault execute is

/-! ## Devices -/

/-- The console with its screen changed. -/
def mapScreen (c : Console κ σ ρ) (f : σ → σ) : Console κ σ ρ :=
  { c with devices := { c.devices with screen := f c.devices.screen } }

/-- The console after its screen was shown. -/
def refresh (c : Console κ σ ρ) : Console κ σ ρ := c.mapScreen Screen.refresh

end Console

end Chip8
