-- A program that is loaded is laid over memory. It covers as many bytes as fit, and
-- hides what another program left under them.
import Chip8.Proofs.Reset
namespace Chip8

/-! ## Programs in memory -/

namespace Machine

variable {m m' : Machine} {p q : List UInt8}

/-- A byte of memory that a program covers. -/
def Covered (p : List UInt8) (a : Nat) : Prop :=
  programStart ≤ a ∧ a < programStart + min p.length maxProgramSize

theorem lt_memorySize_of_covered {a : Nat} (h : Covered p a) : a < memorySize := by
  unfold Covered maxProgramSize programStart at h
  omega

theorem byteAt_of_covered {a : Nat} (h : Covered p a) :
    p[a - programStart]? = some ((m.load p).byteAt a) := by
  have ha := lt_memorySize_of_covered h
  obtain ⟨hstart, hend⟩ := h
  have hkept : a - programStart < maxProgramSize := by omega
  have hlt : a - programStart < p.length := by omega
  rw [load, byteAt_writeBytes _ _ _ _ ha, if_pos hstart, List.getElem?_take, if_pos hkept,
    List.getElem?_eq_getElem hlt]
  rfl

theorem byteAt_of_not_covered {a : Nat} (h : ¬ Covered p a) :
    (m.load p).byteAt a = m.byteAt a := by
  apply byteAt_writeBytes_of_outside
  rw [List.length_take]
  unfold Covered at h
  omega

/-- Memories with the same bytes are equal. -/
theorem memory_ext (h : ∀ a < memorySize, m.byteAt a = m'.byteAt a) : m.memory = m'.memory := by
  ext a ha
  have hbyte := h a ha
  simp only [byteAt, Vector.getElem?_eq_getElem ha, Option.getD_some] at hbyte
  rw [hbyte]

theorem covered_of_le (h : min p.length maxProgramSize ≤ q.length) {a : Nat}
    (hp : Covered p a) : Covered q a := by
  unfold Covered at hp ⊢
  omega

/-- A program that covers as much as the one before it leaves nothing of it. -/
theorem load_load (h : min p.length maxProgramSize ≤ q.length) :
    (m.load p).load q = m.load q := by
  have hmemory : ((m.load p).load q).memory = (m.load q).memory := by
    apply memory_ext
    intro a _
    by_cases hq : Covered q a
    · have hbyte := (byteAt_of_covered (m := m.load p) hq).symm.trans
        (byteAt_of_covered (m := m) hq)
      exact Option.some.inj hbyte
    · have hp : ¬ Covered p a := mt (covered_of_le h) hq
      rw [byteAt_of_not_covered hq, byteAt_of_not_covered hq, byteAt_of_not_covered hp]
  calc (m.load p).load q = { m with memory := ((m.load p).load q).memory } := rfl
    _ = m.load q := by rw [hmemory]; rfl

end Machine

/-! ## Numbers that are no bytes -/

namespace Console

theorem bytes?_of_not_byte {values : List Int} (h : ∃ v ∈ values, v < 0 ∨ 0xFF < v) :
    bytes? values = none := by
  obtain ⟨v, hv, hout⟩ := h
  induction values with
  | nil => cases hv
  | cons w rest ih =>
    unfold bytes? at ih ⊢
    rw [List.mapM_cons]
    rcases List.mem_cons.1 hv with rfl | hrest
    · rw [if_neg (by omega)]
      rfl
    · rw [ih hrest]
      split <;> rfl

theorem exists_bytes {values : List Int} (h : ∀ v ∈ values, 0 ≤ v ∧ v ≤ 0xFF) :
    ∃ p : List UInt8, values = p.map fun b => (b.toNat : Int) := by
  induction values with
  | nil => exact ⟨[], rfl⟩
  | cons v rest ih =>
    obtain ⟨⟨h0, h1⟩, hrest⟩ := List.forall_mem_cons.1 h
    obtain ⟨p, rfl⟩ := ih hrest
    have hbyte : (v.toNat.toUInt8.toNat : Int) = v := by
      rw [Nat.toUInt8_eq, UInt8.toNat_ofNat']
      omega
    exact ⟨v.toNat.toUInt8 :: p, by rw [List.map_cons, hbyte]⟩

end Console

/-! ## Loading -/

/-- Loading replaces the bytes from the start of programs on by those of the program,
as many as fit, and leaves everything else. It hides every program before it that
covered no more. Numbers are loaded if they are bytes; if one of them is none, the
console stays as it is, with the program that a reset puts back. -/
theorem loading_lays_a_program_over_memory (m : Machine) (p : List UInt8) :
    (∀ i < min p.length 3584, p[i]? = some ((m.load p).byteAt (0x200 + i))) ∧
    (∀ a, (∀ i < min p.length 3584, a ≠ 0x200 + i) → (m.load p).byteAt a = m.byteAt a) ∧
    m.load p = { m with memory := (m.load p).memory } ∧
    (∀ q : List UInt8, min p.length 3584 ≤ q.length → (m.load p).load q = m.load q) ∧
    (m.load p).load p = m.load p ∧
    ∀ {κ σ ρ : Type} (c : Console κ σ ρ) (values : List Int),
      ((∃ v ∈ values, v < 0 ∨ 0xFF < v) → c.load values = (.error .notBytes, c)) ∧
      ((∀ v ∈ values, 0 ≤ v ∧ v ≤ 0xFF) → ∃ bytes : List UInt8,
        values = bytes.map (fun b => (b.toNat : Int)) ∧ (c.load values).1 = .ok () ∧
        (c.load values).2.machine = c.machine.load bytes ∧
        (c.load values).2.program = bytes) := by
  refine ⟨?_, ?_, rfl, fun q hq => Machine.load_load hq,
    Machine.load_load (Nat.min_le_left _ _), fun c values => ⟨?_, ?_⟩⟩
  · intro i hi
    have hcovered : Machine.Covered p (programStart + i) :=
      ⟨Nat.le_add_right _ _, Nat.add_lt_add_left hi _⟩
    have hbyte := Machine.byteAt_of_covered (m := m) hcovered
    rw [Nat.add_sub_cancel_left] at hbyte
    exact hbyte
  · intro a ha
    apply Machine.byteAt_of_not_covered
    rintro ⟨hstart, hend⟩
    apply ha (a - programStart)
    · change a < programStart + min p.length 3584 at hend
      omega
    · exact (Nat.add_sub_of_le hstart).symm
  · intro hout
    unfold Console.load
    rw [Console.bytes?_of_not_byte hout]
  · intro hbytes
    obtain ⟨bytes, rfl⟩ := Console.exists_bytes hbytes
    rw [Console.load_toNat]
    exact ⟨bytes, rfl, rfl, rfl, rfl⟩

/-- Of a program of 4000 bytes, the last one that fits is at the end of memory. A
program of 3584 bytes hides all of it, and numbers that end in 256 leave it there. -/
theorem long_program_is_hidden_by_one_that_fits :
    ∃ c : Console SilentKeypad Grid Splitting, ∃ p q : List UInt8,
      p = List.replicate 4000 1 ∧ q = List.replicate 3584 2 ∧
      c = loaded p ∧ c.machine.byteAt (0x200 + 3583) = 1 ∧
      c.machine.byteAt 0x1FF = Machine.initial.byteAt 0x1FF ∧
      c.machine.load q = Machine.initial.load q ∧
      c.load [7, 256] = (.error .notBytes, c) ∧ (c.load [7, 256]).2.reset.machine = c.machine := by
  let p : List UInt8 := List.replicate 4000 1
  let q : List UInt8 := List.replicate 3584 2
  have hp : p.length = 4000 := List.length_replicate
  have hq : q.length = 3584 := List.length_replicate
  obtain ⟨hcovered, hkept, -, hhides, -, hload⟩ :=
    loading_lays_a_program_over_memory Machine.initial p
  have hlast := hcovered 3583 (by omega)
  have hbefore := hkept 0x1FF (by omega)
  have hrefused := (hload (loaded p) [7, 256]).1 ⟨256, by simp, .inr (by decide)⟩
  refine ⟨loaded p, p, q, rfl, rfl, rfl, ?_, hbefore, hhides q (by omega), hrefused, ?_⟩
  · rw [List.getElem?_replicate, if_pos (by decide)] at hlast
    exact (Option.some.inj hlast).symm
  · rw [hrefused]
    rfl

end Chip8
