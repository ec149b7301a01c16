-- Random bytes are drawn one by one. Each random instruction that is carried out
-- takes the next byte of its source, and nothing else takes any.
import Chip8.Proofs.Deeds
import Chip8.Proofs.RegisterArithmetic
namespace Chip8

open Instruction

/-- Whether an instruction draws a random byte. -/
def Instruction.drawsRandom : Instruction → Bool
  | rand .. => true
  | _ => false

theorem Instruction.exists_of_drawsRandom {i : Instruction} (h : i.drawsRandom = true) :
    ∃ x nn, i = rand x nn := by
  cases i
  case rand x nn => exact ⟨x, nn, rfl⟩
  all_goals cases h

theorem Instruction.randomAfter_of_not_drawsRandom {ρ : Type} [RandomSource ρ] {i : Instruction}
    (h : i.drawsRandom = false) (random : ρ) : i.randomAfter random = random := by
  cases i
  case rand => cases h
  all_goals rfl

/-! ## A loop of bytes -/

namespace ByteLoop

variable {values : List Int}

theorem exists_ofList (h : values ≠ []) :
    ∃ l : ByteLoop, ofList values = .ok l ∧ l.position = 0 ∧
      l.bytes.toList = values.map fun v => (lowByte v).toUInt8 := by
  have hsize : 0 < (values.map fun v => (lowByte v).toUInt8).toArray.size := by
    simpa using List.length_pos_iff.2 h
  exact ⟨⟨_, hsize, 0⟩, dif_pos hsize, rfl, rfl⟩

/-- The byte that comes next, counted around the values. -/
theorem exists_next_eq {l : ByteLoop}
    (hbytes : l.bytes.toList = values.map fun v => (lowByte v).toUInt8) :
    ∃ v, values[l.position % values.length]? = some v ∧ l.next.1 = (lowByte v).toUInt8 := by
  have hsize : l.bytes.size = values.length := by
    rw [← Array.length_toList, hbytes, List.length_map]
  have hplace : l.position % values.length < values.length := by
    apply Nat.mod_lt
    have := l.nonempty
    omega
  refine ⟨values[l.position % values.length], List.getElem?_eq_getElem hplace, ?_⟩
  simp only [next, ← Array.getElem_toList, hbytes, hsize, List.getElem_map]

end ByteLoop

/-- The mask of a legal instruction leaves of a byte what it has in common with it. -/
theorem toNat_and_lowByte (v : Int) {nn : Int} (h : Fits .nn nn) :
    (((lowByte v).toUInt8 &&& (lowByte nn).toUInt8).toNat : Int) = bitAnd (v % 256) nn := by
  obtain ⟨h0, h1⟩ := h
  simp only [Operand.limit] at h1
  obtain ⟨n, rfl⟩ := Int.eq_ofNat_of_zero_le h0
  have hbyte : (lowByte v).toUInt8.toNat = lowByte v := by
    rw [Nat.toUInt8_eq, UInt8.toNat_ofNat']
    unfold lowByte
    omega
  have hmask : (lowByte (n : Int)).toUInt8.toNat = n := Machine.toNat_toUInt8_lowByte (by omega)
  rw [UInt8.toNat_and, hbyte, hmask, ← natCast_lowByte]
  rfl

/-! ## Draws of a console -/

namespace Console

section
variable {κ σ ρ : Type} [Keypad κ] [Screen σ] [RandomSource ρ] {c : Console κ σ ρ}

/-- How many random instructions are carried out. -/
def draws (c : Console κ σ ρ) (ops : List Operation) : Nat :=
  (c.deeds ops).countP fun d => d.instruction.drawsRandom

theorem draws_cons (c : Console κ σ ρ) (op : Operation) (rest : List Operation) :
    c.draws (op :: rest) =
      ((c.deed? op).toList.countP fun d => d.instruction.drawsRandom) +
        (c.operate op).draws rest := by
  simp [draws, deeds]

/-- To draw a random byte never fails. -/
theorem obey_rand {a : Command} {x nn : Int} (htried : c.tried a = .ok (rand x nn)) :
    (c.obey a).1 = .ok () ∧
      (c.obey a).2.machine.reg x =
        (RandomSource.next c.devices.random).1 &&& (lowByte nn).toUInt8 := by
  obtain ⟨hanswer, hmachine⟩ := obey_of_perform htried rfl
  exact ⟨hanswer, by rw [hmachine]; exact Machine.reg_setReg_self _ _ _⟩

theorem deed?_of_rand {a : Command} {x nn : Int} (htried : c.tried a = .ok (rand x nn)) :
    c.deed? (.command a) = some ⟨c, rand x nn⟩ :=
  deed?_of_ok htried (obey_rand htried).1

theorem random_of_deed {op : Operation} {d : Deed κ σ ρ} (h : c.deed? op = some d) :
    (c.operate op).devices.random = d.instruction.randomAfter c.devices.random :=
  (carried_of_deed h).2.footprint.random

/-- What carries out no random instruction, be it that it fails, leaves the source. -/
theorem random_of_no_draw {op : Operation}
    (h : ∀ a x nn, op = .command a → c.tried a ≠ .ok (rand x nn)) :
    (c.operate op).devices.random = c.devices.random := by
  cases op with
  | command a =>
    obtain ⟨notices, hobey⟩ := c.exists_obey_eq a
    simp only [operate, hobey, devices_finish]
    cases htried : c.tried a with
    | error f => rfl
    | ok i =>
      apply (random_effect i _ _).trans
      apply randomAfter_of_not_drawsRandom
      cases hdraws : i.drawsRandom with
      | false => rfl
      | true =>
        obtain ⟨x, nn, rfl⟩ := exists_of_drawsRandom hdraws
        exact absurd htried (h a x nn rfl)
  | load values =>
    simp only [operate, load]
    split <;> rfl
  | loadFile file contents => cases contents <;> rfl
  | reset => rfl
  | screen call => rfl

theorem random_of_no_deed {op : Operation} (h : c.deed? op = none) :
    (c.operate op).devices.random = c.devices.random := by
  apply random_of_no_draw
  rintro a x nn rfl htried
  rw [deed?_of_rand htried] at h
  cases h

end

variable {κ σ : Type} [Keypad κ] [Screen σ]

/-- A loop of bytes moves on by one place for each draw. -/
theorem random_operations (c : Console κ σ ByteLoop) (ops : List Operation) :
    (ops.foldl operate c).devices.random =
      { c.devices.random with position := c.devices.random.position + c.draws ops } := by
  induction ops generalizing c with
  | nil => rfl
  | cons op rest ih =>
    rw [List.foldl_cons, ih, draws_cons]
    cases hdeed : c.deed? op with
    | none => simp [random_of_no_deed hdeed]
    | some d =>
      rw [random_of_deed hdeed]
      cases hdraws : d.instruction.drawsRandom with
      | false => simp [randomAfter_of_not_drawsRandom hdraws, hdraws]
      | true =>
        obtain ⟨x, nn, hrand⟩ := exists_of_drawsRandom hdraws
        simp [hrand, drawsRandom, randomAfter, RandomSource.next, ByteLoop.next, Nat.add_assoc,
          Nat.add_comm 1]

/-- Whatever is done with a console, its random instructions take the values of the
loop in turn, each one the next value, of which they leave the bits of their mask.
Nothing else moves the loop on, no reset and no call that fails among it. -/
theorem random_bytes_are_taken_in_turn {values : List Int} (hvalues : values ≠ []) :
    ∃ l, ByteLoop.ofList values = .ok l ∧
      ∀ (c : Console κ σ ByteLoop) (ops : List Operation), c.devices.random = l →
        let e := ops.foldl operate c
        (∀ a x nn, e.tried a = .ok (rand x nn) →
          (e.obey a).1 = .ok () ∧
          ∃ v, values[c.draws ops % values.length]? = some v ∧
            ((e.obey a).2.machine.reg x).toNat = bitAnd (v % 256) nn) ∧
        ∀ op, (∀ a x nn, op = .command a → e.tried a ≠ .ok (rand x nn)) →
          (e.operate op).devices.random = e.devices.random := by
  obtain ⟨l, hl, hposition, hbytes⟩ := ByteLoop.exists_ofList hvalues
  refine ⟨l, hl, ?_⟩
  intro c ops hc e
  have hrandom : e.devices.random = { l with position := c.draws ops } := by
    rw [random_operations, hc, hposition, Nat.zero_add]
  refine ⟨?_, fun op hop => random_of_no_draw hop⟩
  intro a x nn htried
  obtain ⟨hanswer, hreg⟩ := obey_rand htried
  have hnn : Fits .nn nn := legal_of_tried htried (.nn, nn) (by simp [operands])
  have hloop : e.devices.random.bytes.toList = values.map fun v => (lowByte v).toUInt8 := by
    rw [hrandom]
    exact hbytes
  obtain ⟨v, hv, hnext⟩ := ByteLoop.exists_next_eq hloop
  refine ⟨hanswer, v, ?_, ?_⟩
  · rw [hrandom] at hv
    exact hv
  · have hbyte : (RandomSource.next e.devices.random).1 = (lowByte v).toUInt8 := hnext
    rw [hreg, hbyte, toNat_and_lowByte v hnn]

/-- Of two values, the third random instruction takes the first one again. A masked
draw into the flag counts, a reset, a load and an operand that does not fit do not. -/
theorem third_random_byte_is_the_first_value :
    ∃ l, ByteLoop.ofList [-1, 300] = .ok l ∧
      ∃ c e : Console SilentKeypad Grid ByteLoop, ∃ ops : List Operation,
        c.devices.random = l ∧ e = ops.foldl operate c ∧ c.draws ops = 2 ∧
        e.tried (.execute (rand 3 0x6F)) = .ok (rand 3 0x6F) ∧
        ((e.obey (.execute (rand 3 0x6F))).2.machine.reg 3).toNat = 0x6F ∧
        (e.operate .reset).devices.random = e.devices.random := by
  have hvalues : ([-1, 300] : List Int) ≠ [] := by decide
  obtain ⟨l, hl, htaken⟩ :=
    random_bytes_are_taken_in_turn (κ := SilentKeypad) (σ := Grid) hvalues
  let c : Console SilentKeypad Grid ByteLoop := Console.new ⟨{}, .standard, l⟩
  let ops : List Operation := [.command (.execute (rand 15 0)), .reset,
    .command (.execute (rand 1 256)), .load [1, 2], .command (.word 0xC20F)]
  have hdraws : c.draws ops = 2 := rfl
  obtain ⟨hdrawn, hkept⟩ := htaken c ops rfl
  obtain ⟨-, v, hv, hreg⟩ := hdrawn (.execute (rand 3 0x6F)) 3 0x6F rfl
  rw [hdraws] at hv
  cases hv
  exact ⟨l, hl, c, _, ops, rfl, rfl, hdraws, rfl, Int.ofNat.inj hreg, hkept .reset nofun⟩

end Console

end Chip8
