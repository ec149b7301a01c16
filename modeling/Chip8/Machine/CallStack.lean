-- The call stack: 256 cells and the number of cells in use. A cell goes back
-- to zero when its address is popped.
import Chip8.Fault
namespace Chip8

/-- The number of cells of the call stack. -/
abbrev stackSize : Nat := 256

/-- The return addresses of the subroutines that are running. Pushing and
popping keep the depth between zero and the number of cells; a depth set by
hand may be any number. -/
structure CallStack where
  cells : Vector UInt16 stackSize
  depth : Int
deriving DecidableEq

namespace CallStack

/-- No subroutine runs. -/
def empty : CallStack := ⟨Vector.replicate stackSize 0, 0⟩

/-- A place counted from the front. A negative one counts from the end. -/
def fromFront (place : Int) : Int := if place < 0 then place + stackSize else place

/-- The stack with an address in a cell. A write that misses the cells is
lost. -/
def setCell (s : CallStack) (place : Int) (address : UInt16) : CallStack :=
  let k := fromFront place
  if k < 0 then s else { s with cells := s.cells.setIfInBounds k.toNat address }

/-- The address in a cell. Behind the last cell stands the last address. -/
def cellAt (s : CallStack) (place : Nat) : UInt16 :=
  have : min place (stackSize - 1) < stackSize :=
    Nat.lt_of_le_of_lt (Nat.min_le_right place _) (by decide)
  s.cells[min place (stackSize - 1)]

/-- A return address on top, if a cell is free. A depth far below zero has no
place that could be counted. -/
def push (s : CallStack) (address : UInt16) : Except Fault CallStack :=
  if s.depth < stackSize then
    if Text.fitsHalfWord (fromFront s.depth) then
      .ok { s.setCell s.depth address with depth := s.depth + 1 }
    else .error (.stackPlace (fromFront s.depth))
  else .error (.stackOverflow stackSize)

/-- The return address on top, and the stack without it. -/
def pop (s : CallStack) : Except Fault (UInt16 × CallStack) :=
  if 0 < s.depth then
    let top := s.depth - 1
    if Text.fitsHalfWord top then .ok (s.cellAt top.toNat, { s.setCell top 0 with depth := top })
    else .error (.stackPlace top)
  else .error .stackUnderflow

/-! ## Pushing and popping -/

/-- Whether the depth counts cells. -/
def Bounded (s : CallStack) : Prop := 0 ≤ s.depth ∧ s.depth ≤ stackSize

theorem bounded_empty : empty.Bounded := ⟨by decide, by decide⟩

/-- Inside the cells, a write sets the cell at its place. -/
theorem cells_setCell {s : CallStack} {place : Int} (address : UInt16) (h : 0 ≤ place) :
    (s.setCell place address).cells = s.cells.setIfInBounds place.toNat address := by
  unfold setCell fromFront
  rw [if_neg (by omega), if_neg (by omega)]

theorem depth_push {s t : CallStack} {address : UInt16} (h : s.push address = .ok t) :
    t.depth = s.depth + 1 := by
  unfold push at h
  split at h
  · split at h
    · injection h with h
      subst h
      rfl
    · simp at h
  · simp at h

theorem depth_pop {s t : CallStack} {address : UInt16} (h : s.pop = .ok (address, t)) :
    t.depth + 1 = s.depth := by
  unfold pop at h
  split at h
  · simp only [] at h
    split at h
    · simp at h
      obtain ⟨-, rfl⟩ := h
      simp
    · simp at h
  · simp at h

/-- A place among the cells can be counted. -/
theorem fitsHalfWord_of_lt {place : Int} (h0 : 0 ≤ place) (h : place < stackSize) :
    Text.fitsHalfWord place = true := by
  have hsize : (stackSize : Int) = 256 := rfl
  unfold Text.fitsHalfWord
  simp only [Bool.and_eq_true, decide_eq_true_eq]
  omega

end CallStack

end Chip8
