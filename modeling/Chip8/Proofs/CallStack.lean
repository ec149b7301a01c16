-- What pushing and popping do to each cell of the call stack.
import Chip8.Machine.CallStack
namespace Chip8.CallStack

/-- The address in a cell. -/
def cell (s : CallStack) (k : Fin stackSize) : UInt16 := s.cells.get k

/-- The stack with an address pushed: the cell at the old depth holds it, and
the other cells are as they were. -/
structure Pushed (s : CallStack) (address : UInt16) (t : CallStack) : Prop where
  room : s.depth < stackSize
  depth_eq : t.depth = s.depth + 1
  top : ∀ k : Fin stackSize, (k : Int) = s.depth → t.cell k = address
  rest : ∀ k : Fin stackSize, (k : Int) ≠ s.depth → t.cell k = s.cell k

/-- The stack with an address popped: it stood in the cell at the new depth,
which is zero now, and the other cells are as they were. -/
structure Popped (s : CallStack) (address : UInt16) (t : CallStack) : Prop where
  used : 0 < s.depth
  depth_eq : t.depth = s.depth - 1
  top : ∀ k : Fin stackSize, (k : Int) = t.depth → s.cell k = address
  cleared : ∀ k : Fin stackSize, (k : Int) = t.depth → t.cell k = 0
  rest : ∀ k : Fin stackSize, (k : Int) ≠ t.depth → t.cell k = s.cell k

variable {s t : CallStack} {address : UInt16}

/-- A place that is not below the first one is written like any other. -/
theorem cell_setCell {place : Int} (h : 0 ≤ place) (k : Fin stackSize) :
    (s.setCell place address).cell k = if (k : Int) = place then address else s.cell k := by
  unfold cell
  rw [cells_setCell address h]
  show (s.cells.setIfInBounds place.toNat address)[(k : Nat)] = _
  rw [Vector.getElem_setIfInBounds]
  congr 1
  simp only [eq_iff_iff]
  omega

theorem cellAt_eq (k : Fin stackSize) : s.cellAt k = s.cell k := by
  have hmin : min (k : Nat) (stackSize - 1) = k := by omega
  unfold cellAt
  simp only [hmin]
  rfl

theorem pushed_of_push (h0 : 0 ≤ s.depth) (h : s.push address = .ok t) : s.Pushed address t := by
  unfold push at h
  split at h
  · rename_i hroom
    split at h
    · cases h
      refine ⟨hroom, rfl, fun k hk => ?_, fun k hk => ?_⟩
      · exact (cell_setCell h0 k).trans (if_pos hk)
      · exact (cell_setCell h0 k).trans (if_neg hk)
    · simp at h
  · simp at h

theorem popped_of_pop (h : s.pop = .ok (address, t)) : s.Popped address t := by
  unfold pop at h
  split at h
  · rename_i hused
    simp only at h
    split at h
    · cases h
      have h0 : 0 ≤ s.depth - 1 := by omega
      refine ⟨hused, rfl, fun k hk => ?_, fun k hk => ?_, fun k hk => ?_⟩
      · have hplace : (s.depth - 1).toNat = k := by
          simp only at hk
          omega
        rw [hplace, cellAt_eq]
      · exact (cell_setCell h0 k).trans (if_pos hk)
      · exact (cell_setCell h0 k).trans (if_neg hk)
    · simp at h
  · simp at h

end Chip8.CallStack
