-- The machine: 4096 bytes of memory, sixteen byte registers, an index and a
-- program counter of 16 bits, a call stack and two timers.
import Chip8.Machine.CallStack
namespace Chip8

/-- The number of bytes of memory. -/
abbrev memorySize : Nat := 4096

/-- The number of registers. -/
abbrev registerCount : Nat := 16

/-- Where programs start in memory. -/
def programStart : Nat := 0x200

/-- The number of bytes that a program can have. -/
def maxProgramSize : Nat := memorySize - programStart

/-- The register that tells carries, borrows and collisions. -/
def flagRegister : Fin registerCount := 15

/-- The state of the machine. The picture belongs to the screen. -/
structure Machine where
  memory : Vector UInt8 memorySize
  registers : Vector UInt8 registerCount
  index : UInt16
  pc : UInt16
  stack : CallStack
  delay : UInt8
  sound : UInt8
deriving DecidableEq

namespace Machine

/-! ## Registers -/

/-- The register that an operand names. Legal operands name all sixteen. -/
def register (x : Int) : Fin registerCount := Fin.ofNat registerCount x.toNat

/-- The value of the register that an operand names. -/
def reg (m : Machine) (x : Int) : UInt8 := m.registers[register x]

/-- The machine with a value in a register. -/
def setReg (m : Machine) (x : Fin registerCount) (v : UInt8) : Machine :=
  { m with registers := m.registers.set x v }

theorem reg_setReg_self (m : Machine) (x : Int) (v : UInt8) :
    (m.setReg (register x) v).reg x = v := by
  simp [setReg, reg]

/-! ## Memory -/

/-- Accepts the bytes from an address on if all of them are in memory. An
empty range may also stand right behind the last byte. -/
def checkRange (address length : Int) : Except Fault Int :=
  if address < 0 ∨ address + length > memorySize then .error (.memoryAccess address length)
  else .ok address

/-- A range is accepted if it does not begin before memory or end behind it. -/
theorem checkRange_eq_ok_iff {address length a : Int} :
    checkRange address length = .ok a ↔
      (0 ≤ address ∧ address + length ≤ memorySize) ∧ a = address := by
  unfold checkRange
  split
  · simp only [reduceCtorEq, false_iff]
    omega
  · simp only [Except.ok.injEq]
    omega

/-- The byte at an address, zero outside memory. -/
def byteAt (m : Machine) (address : Nat) : UInt8 := m.memory[address]?.getD 0

/-- `length` bytes from an address on. -/
def bytesAt (m : Machine) (address length : Nat) : List UInt8 :=
  (List.range length).map fun k => m.byteAt (address + k)

/-- A place in memory. A negative one counts from the end, and one that lies
outside stands for the end that is nearer. -/
def placeOf (v : Int) : Nat :=
  min memorySize (if v < 0 then v + memorySize else v).toNat

/-- The bytes from one place up to another. -/
def slice (m : Machine) (first last : Int) : List UInt8 :=
  (m.memory.toList.take (placeOf last)).drop (placeOf first)

/-- A row of bytes with more bytes written over it, one after the other from a
place on. What would be behind its end is left out. -/
def overlay {n : Nat} (row : Vector UInt8 n) (place : Nat) : List UInt8 → Vector UInt8 n
  | [] => row
  | b :: rest => overlay (row.setIfInBounds place b) (place + 1) rest

theorem getElem_overlay {n : Nat} (row : Vector UInt8 n) (place : Nat) (bytes : List UInt8)
    (k : Nat) (h : k < n) :
    (overlay row place bytes)[k] =
      if place ≤ k then (bytes[k - place]?).getD row[k] else row[k] := by
  induction bytes generalizing row place with
  | nil => simp [overlay]
  | cons b rest ih =>
    rw [overlay, ih]
    by_cases h1 : place + 1 ≤ k
    · have h2 : place ≤ k := by omega
      have h3 : k - place = (k - (place + 1)) + 1 := by omega
      simp [h1, h2, h3, Vector.getElem_setIfInBounds_ne, show place ≠ k by omega]
    · by_cases h2 : place = k
      · subst h2
        simp [h1]
      · have h3 : ¬ place ≤ k := by omega
        simp [h1, h3, Vector.getElem_setIfInBounds_ne, h2]

/-- The machine with bytes written from an address on. -/
def writeBytes (m : Machine) (address : Nat) (bytes : List UInt8) : Machine :=
  { m with memory := overlay m.memory address bytes }

/-- After a write, a place holds the byte that was written there, if any. -/
theorem byteAt_writeBytes (m : Machine) (address a : Nat) (bytes : List UInt8)
    (h : a < memorySize) :
    (m.writeBytes address bytes).byteAt a =
      if address ≤ a then (bytes[a - address]?).getD (m.byteAt a) else m.byteAt a := by
  simp only [byteAt, writeBytes, Vector.getElem?_eq_getElem h, Option.getD_some,
    getElem_overlay _ _ _ _ h]

/-! ## Timers -/

/-- Both timers go down by one and stop at zero. -/
def tick (m : Machine) : Machine :=
  { m with
    delay := if 0 < m.delay then m.delay - 1 else m.delay
    sound := if 0 < m.sound then m.sound - 1 else m.sound }

/-- A timer that ticks, as a natural number. -/
theorem toNat_ticked (v : UInt8) : (if 0 < v then v - 1 else v).toNat = v.toNat - 1 := by
  by_cases h : 0 < v
  · have h1 : (1 : UInt8) ≤ v := by
      rw [UInt8.lt_iff_toNat_lt] at h
      rw [UInt8.le_iff_toNat_le]
      exact h
    rw [if_pos h, UInt8.toNat_sub_of_le _ _ h1]
    rfl
  · rw [if_neg h]
    rw [UInt8.lt_iff_toNat_lt] at h
    simp at h
    omega

/-! ## Fetching -/

/-- The two bytes of the instruction at the program counter. -/
def fetch (m : Machine) : Except Fault (UInt8 × UInt8) :=
  match checkRange m.pc.toNat 2 with
  | .error f => .error f
  | .ok _ => .ok (m.byteAt m.pc.toNat, m.byteAt (m.pc.toNat + 1))

/-- The machine behind the instruction at the program counter. -/
def advance (m : Machine) : Machine := { m with pc := m.pc + 2 }

end Machine

end Chip8
