-- Arithmetic on registers. The nine operations are told twice: on bytes by the
-- equation that ties the result and the flag to the two registers, and on whole
-- numbers of any size and sign by remainders and bits.
import Mathlib.Data.Int.Bitwise
import Chip8.Proofs.Footprint
namespace Chip8

open Instruction

/-! ## Bits of whole numbers -/

theorem toNat_testBit_zero (a : Int) : ((a.testBit 0).toNat : Int) = a % 2 := by
  cases a with
  | ofNat m =>
    rcases Nat.mod_two_eq_zero_or_one m with h | h
    · simp [Int.testBit, h]
      omega
    · simp [Int.testBit, h]
      omega
  | negSucc m =>
    rcases Nat.mod_two_eq_zero_or_one m with h | h
    · simp [Int.testBit, h]
      omega
    · simp [Int.testBit, h]
      omega

/-- One bit of a number, cut out and moved down to the lowest place. -/
theorem bitAnd_two_pow_shiftRight (a : Int) (k : Nat) :
    bitAnd a (2 ^ k : Nat) >>> k = (a.testBit k).toNat := by
  have hmove (bit : Bool) : (bit.toNat * 2 ^ k) >>> k = bit.toNat := by
    rw [Nat.shiftRight_eq_div_pow, Nat.mul_div_cancel _ (Nat.two_pow_pos k)]
  cases a with
  | ofNat m =>
    show (((m &&& 2 ^ k) >>> k : Nat) : Int) = _
    rw [Nat.and_two_pow, hmove]
    rfl
  | negSucc m =>
    -- the bits of a negative number are those of its complement, flipped
    have hflip : 2 ^ k ^^^ (m &&& 2 ^ k) = (!m.testBit k).toNat * 2 ^ k := by
      rw [Nat.and_two_pow]
      cases m.testBit k <;> simp
    show (((2 ^ k ^^^ (m &&& 2 ^ k)) >>> k : Nat) : Int) = _
    rw [hflip, hmove]
    rfl

theorem natCast_lowByte (v : Int) : (lowByte v : Int) = v % 256 := by
  unfold lowByte
  omega

namespace Arithmetic

theorem apply_shiftRight (a b : Int) : apply shiftRight a b = ⟨a / 2, some (a % 2)⟩ := by
  have hbit := bitAnd_two_pow_shiftRight a 0
  rw [toNat_testBit_zero] at hbit
  have hhalf : a >>> (1 : Nat) = a / 2 := Int.shiftRight_eq_div_pow a 1
  show Computed.mk (a >>> (1 : Nat)) (some (bitAnd a 1)) = _
  rw [hhalf, ← hbit]
  simp

theorem apply_shiftLeft (a b : Int) :
    apply shiftLeft a b = ⟨2 * a % 256, some (a.testBit 7).toNat⟩ := by
  show Computed.mk (lowByte (2 * a)) (some (bitAnd a (2 ^ 7 : Nat) >>> (7 : Nat))) = _
  rw [natCast_lowByte, bitAnd_two_pow_shiftRight]

theorem apply_add (a b : Int) :
    apply add a b = ⟨(a + b) % 256, some (if 255 < a + b then 1 else 0)⟩ := by
  rw [← natCast_lowByte]
  rfl

theorem apply_subtract (a b : Int) :
    apply subtract a b = ⟨(a - b) % 256, some (if b ≤ a then 1 else 0)⟩ := by
  rw [← natCast_lowByte]
  rfl

/-! On bytes, a result and its flag are tied to the two values by one equation. -/

variable {a b : Nat}

theorem exists_apply_add (ha : a ≤ 255) (hb : b ≤ 255) :
    ∃ r f : Nat, (r ≤ 255 ∧ f ≤ 1 ∧ r + 256 * f = a + b) ∧ apply add a b = ⟨r, some f⟩ := by
  refine ⟨(a + b) % 256, (a + b) / 256, ⟨by omega, by omega, by omega⟩, ?_⟩
  rw [apply_add]
  congr 2
  split <;> omega

theorem exists_apply_subtract (ha : a ≤ 255) (hb : b ≤ 255) :
    ∃ r f : Nat, (r ≤ 255 ∧ f ≤ 1 ∧ (r : Int) - 256 * (1 - f) = a - b) ∧
      apply subtract a b = ⟨r, some f⟩ := by
  rw [apply_subtract]
  by_cases h : b ≤ a
  · refine ⟨a - b, 1, ⟨by omega, by omega, by omega⟩, ?_⟩
    rw [if_pos (by omega)]
    congr 1
    omega
  · refine ⟨a + 256 - b, 0, ⟨by omega, by omega, by omega⟩, ?_⟩
    rw [if_neg (by omega)]
    congr 1
    omega

theorem exists_apply_shiftRight (ha : a ≤ 255) (b : Int) :
    ∃ r f : Nat, (r ≤ 255 ∧ f ≤ 1 ∧ 2 * r + f = a) ∧ apply shiftRight a b = ⟨r, some f⟩ := by
  refine ⟨a / 2, a % 2, ⟨by omega, by omega, by omega⟩, ?_⟩
  rw [apply_shiftRight]
  rfl

theorem exists_apply_shiftLeft (ha : a ≤ 255) (b : Int) :
    ∃ r f : Nat, (r ≤ 255 ∧ f ≤ 1 ∧ r + 256 * f = 2 * a) ∧ apply shiftLeft a b = ⟨r, some f⟩ := by
  refine ⟨2 * a % 256, a / 128, ⟨by omega, by omega, by omega⟩, ?_⟩
  have hbit : (Int.testBit a 7).toNat = a / 128 := by
    show (a.testBit 7).toNat = _
    rw [Nat.testBit_eq_decide_div_mod_eq]
    by_cases h : a / 128 = 1
    · simp [h]
    · have h0 : a / 128 = 0 := by omega
      simp [h0]
  rw [apply_shiftLeft, hbit]
  rfl

end Arithmetic

/-! ## Bytes in registers -/

namespace Machine

/-- A result is in a register, and a flag, if there is one, in the flag register.
The flag wins where both are the same register. -/
structure Wrote (m m' : Machine) (x : Int) (r : Nat) (flag : Option Nat) : Prop where
  result : flag = none ∨ x ≠ 15 → (m'.reg x).toNat = r
  carry : ∀ f, flag = some f → (m'.reg 15).toNat = f
  rest : ∀ k : Fin registerCount, (k : Int) ≠ x → flag = none ∨ k ≠ flagRegister →
    m'.registers.get k = m.registers.get k

/-- The value of the second register of an operation. A shift has none. -/
def second (m : Machine) : Option Int → Int
  | some y => (m.reg y).toNat
  | none => 0

variable {m : Machine} {op : Arithmetic} {x : Int} {y : Option Int} {r : Nat}

theorem toNat_toUInt8_lowByte {v : Nat} (h : v ≤ 255) : (lowByte v).toUInt8.toNat = v := by
  show lowByte v % 256 = v
  unfold lowByte
  omega

theorem compute_eq (m : Machine) (op : Arithmetic) (x : Int) (y : Option Int) :
    m.compute op x y =
      let result := op.apply (m.reg x).toNat (m.second y)
      let m := m.setReg (register x) (lowByte result.value).toUInt8
      match result.flag with
      | some flag => m.setReg flagRegister (lowByte flag).toUInt8
      | none => m := by
  cases y <;> rfl

theorem wrote_of_flagless (hx : Fits .x x) (hr : r ≤ 255)
    (happly : op.apply (m.reg x).toNat (m.second y) = ⟨r, none⟩) :
    m.Wrote (m.compute op x y) x r none := by
  rw [compute_eq, happly]
  refine ⟨fun _ => ?_, nofun, fun k hk _ => ?_⟩
  · rw [reg_setReg_self, toNat_toUInt8_lowByte hr]
  · exact get_setReg_ne (ne_register hx hk)

theorem wrote_of_flag {f : Nat} (hx : Fits .x x) (hr : r ≤ 255) (hf : f ≤ 1)
    (happly : op.apply (m.reg x).toNat (m.second y) = ⟨r, some f⟩) :
    m.Wrote (m.compute op x y) x r (some f) := by
  rw [compute_eq, happly]
  refine ⟨fun hx15 => ?_, fun g hg => ?_, fun k hk hk15 => ?_⟩
  · -- the flag goes to another register
    have hne : register x ≠ flagRegister :=
      (ne_register hx (hx15.resolve_left nofun).symm).symm
    have hflag : ((m.setReg (register x) (lowByte r).toUInt8).setReg flagRegister
        (lowByte f).toUInt8).reg x = (m.setReg (register x) (lowByte r).toUInt8).reg x :=
      get_setReg_ne hne
    rw [hflag, reg_setReg_self, toNat_toUInt8_lowByte hr]
  · cases hg
    have hflag := reg_setReg_self (m.setReg (register x) (lowByte r).toUInt8) 15
      (lowByte f).toUInt8
    exact (congrArg UInt8.toNat hflag).trans (toNat_toUInt8_lowByte (by omega))
  · rw [get_setReg_ne (hk15.resolve_left nofun), get_setReg_ne (ne_register hx hk)]

end Machine

/-! ## Instructions -/

namespace Console

variable {κ σ ρ : Type} [Keypad κ] [Screen σ] [RandomSource ρ]

/-- An instruction can be carried out, and leaves a result in a register and a
flag, if it has one, in the flag register. -/
def Computes (c : Console κ σ ρ) (i : Instruction) (x : Int) (r : Nat) (flag : Option Nat) : Prop :=
  (∃ c', c.Executed i c') ∧ ∀ c', c.Carried i c' → c.machine.Wrote c'.machine x r flag

variable {c : Console κ σ ρ} {i : Instruction} {op : Arithmetic} {x : Int} {y : Option Int}
variable {r : Nat} {flag : Option Nat}

theorem effect_eq_compute (h : Arithmetic.ofInstruction? i = some (op, x, y)) (m : Machine)
    (d : Devices κ σ ρ) : effect i m d = (.ok (m.compute op x y), d) := by
  cases i
  case setReg | or | and | xor | addReg | subReg | shiftRight | subRegReversed | shiftLeft =>
    cases h
    rfl
  all_goals cases h

theorem computes_of_wrote (h : Arithmetic.ofInstruction? i = some (op, x, y)) (hi : i.Legal)
    (hwrote : c.machine.tick.advance.Wrote (c.machine.tick.advance.compute op x y) x r flag) :
    c.Computes i x r flag := by
  refine ⟨exists_executed hi (effect_eq_compute h _ _), fun c' hc' => ?_⟩
  rw [hc'.machine_eq (effect_eq_compute h _ _)]
  exact ⟨hwrote.result, hwrote.carry, hwrote.rest⟩

theorem fits_of_arithmetic (h : Arithmetic.ofInstruction? i = some (op, x, y)) (hi : i.Legal) :
    Fits .x x := by
  cases i
  case setReg | or | and | xor | addReg | subReg | shiftRight | subRegReversed | shiftLeft =>
    cases h
    exact hi _ List.mem_cons_self
  all_goals cases h

theorem computes_of_flagless (h : Arithmetic.ofInstruction? i = some (op, x, y)) (hi : i.Legal)
    (hr : r ≤ 255)
    (happly : op.apply (c.machine.reg x).toNat (c.machine.second y) = ⟨r, none⟩) :
    c.Computes i x r none :=
  computes_of_wrote h hi (Machine.wrote_of_flagless (fits_of_arithmetic h hi) hr happly)

theorem computes_of_flag {f : Nat} (h : Arithmetic.ofInstruction? i = some (op, x, y))
    (hi : i.Legal) (hr : r ≤ 255) (hf : f ≤ 1)
    (happly : op.apply (c.machine.reg x).toNat (c.machine.second y) = ⟨r, some f⟩) :
    c.Computes i x r (some f) :=
  computes_of_wrote h hi (Machine.wrote_of_flag (fits_of_arithmetic h hi) hr hf happly)

/-- The nine operations on registers. Two bytes are moved or their bits are joined
without a flag. Sums, differences and shifts leave a byte and a flag, which together
make up for what does not fit a byte. -/
theorem registers_compute (c : Console κ σ ρ) {x y : Int} (hx : 0 ≤ x ∧ x ≤ 15)
    (hy : 0 ≤ y ∧ y ≤ 15) :
    let a := (c.machine.reg x).toNat
    let b := (c.machine.reg y).toNat
    (c.Computes (setReg x y) x b none ∧ c.Computes (or x y) x (a ||| b) none ∧
      c.Computes (and x y) x (a &&& b) none ∧ c.Computes (xor x y) x (a ^^^ b) none) ∧
    (∃ r f : Nat, (r ≤ 255 ∧ f ≤ 1 ∧ r + 256 * f = a + b) ∧
      c.Computes (addReg x y) x r (some f)) ∧
    (∃ r f : Nat, (r ≤ 255 ∧ f ≤ 1 ∧ (r : Int) - 256 * (1 - f) = a - b) ∧
      c.Computes (subReg x y) x r (some f)) ∧
    (∃ r f : Nat, (r ≤ 255 ∧ f ≤ 1 ∧ (r : Int) - 256 * (1 - f) = b - a) ∧
      c.Computes (subRegReversed x y) x r (some f)) ∧
    (∃ r f : Nat, (r ≤ 255 ∧ f ≤ 1 ∧ 2 * r + f = a) ∧ c.Computes (shiftRight x) x r (some f)) ∧
    (∃ r f : Nat, (r ≤ 255 ∧ f ≤ 1 ∧ r + 256 * f = 2 * a) ∧
      c.Computes (shiftLeft x) x r (some f)) ∧
    ∀ a b : Int,
      Arithmetic.add.apply a b = ⟨(a + b) % 256, some (if 255 < a + b then 1 else 0)⟩ ∧
      Arithmetic.subtract.apply a b = ⟨(a - b) % 256, some (if b ≤ a then 1 else 0)⟩ ∧
      Arithmetic.subtractReversed.apply b a = Arithmetic.subtract.apply a b ∧
      Arithmetic.shiftRight.apply a b = ⟨a / 2, some (a % 2)⟩ ∧
      Arithmetic.shiftLeft.apply a b = ⟨2 * a % 256, some (a.testBit 7).toNat⟩ := by
  intro a b
  have hbyte (v : UInt8) : v.toNat ≤ 255 := Nat.le_of_lt_succ v.toNat_lt
  have ha : a ≤ 255 := hbyte _
  have hb : b ≤ 255 := hbyte _
  have hlegal {i : Instruction} (hi : i.operands = [(.x, x), (.y, y)]) : i.Legal := by
    unfold Legal
    rw [hi]
    exact List.forall_mem_cons.2 ⟨hx, List.forall_mem_singleton.2 hy⟩
  have hshift {i : Instruction} (hi : i.operands = [(.x, x)]) : i.Legal := by
    unfold Legal
    rw [hi]
    exact List.forall_mem_singleton.2 hx
  refine ⟨⟨?_, ?_, ?_, ?_⟩, ?_, ?_, ?_, ?_, ?_, fun a b => ?_⟩
  · exact computes_of_flagless rfl (hlegal rfl) hb rfl
  · have hor : a ||| b < 2 ^ 8 := Nat.or_lt_two_pow (by omega) (by omega)
    exact computes_of_flagless rfl (hlegal rfl) (by omega) rfl
  · have hand : a &&& b ≤ a := Nat.and_le_left
    exact computes_of_flagless rfl (hlegal rfl) (by omega) rfl
  · have hxor : a ^^^ b < 2 ^ 8 := Nat.xor_lt_two_pow (by omega) (by omega)
    exact computes_of_flagless rfl (hlegal rfl) (by omega) rfl
  · obtain ⟨r, f, hrf, happly⟩ := Arithmetic.exists_apply_add ha hb
    exact ⟨r, f, hrf, computes_of_flag rfl (hlegal rfl) hrf.1 hrf.2.1 happly⟩
  · obtain ⟨r, f, hrf, happly⟩ := Arithmetic.exists_apply_subtract ha hb
    exact ⟨r, f, hrf, computes_of_flag rfl (hlegal rfl) hrf.1 hrf.2.1 happly⟩
  · obtain ⟨r, f, hrf, happly⟩ := Arithmetic.exists_apply_subtract hb ha
    exact ⟨r, f, hrf, computes_of_flag rfl (hlegal rfl) hrf.1 hrf.2.1 happly⟩
  · obtain ⟨r, f, hrf, happly⟩ := Arithmetic.exists_apply_shiftRight ha 0
    exact ⟨r, f, hrf, computes_of_flag rfl (hshift rfl) hrf.1 hrf.2.1 happly⟩
  · obtain ⟨r, f, hrf, happly⟩ := Arithmetic.exists_apply_shiftLeft ha 0
    exact ⟨r, f, hrf, computes_of_flag rfl (hshift rfl) hrf.1 hrf.2.1 happly⟩
  · exact ⟨Arithmetic.apply_add a b, Arithmetic.apply_subtract a b, rfl,
      Arithmetic.apply_shiftRight a b, Arithmetic.apply_shiftLeft a b⟩

/-- 200 and 200 leave 144 and a carry. In the flag register itself the carry wins,
and 144 is lost. -/
theorem carry_wins_over_sum :
    (∃ c', (byHand [setConst 3 200]).Executed (addReg 3 3) c' ∧
      (c'.machine.reg 3).toNat = 144 ∧ (c'.machine.reg 15).toNat = 1) ∧
    ∃ c', (byHand [setConst 15 200]).Executed (addReg 15 15) c' ∧
      (c'.machine.reg 15).toNat = 1 := by
  constructor
  · obtain ⟨-, ⟨r, f, ⟨hr, hf, hsum⟩, ⟨c', hc'⟩, hwrote⟩, -⟩ :=
      registers_compute (byHand [setConst 3 200]) (x := 3) (y := 3) (by decide) (by decide)
    have h200 : ((byHand [setConst 3 200]).machine.reg 3).toNat = 200 := rfl
    have hleft := hwrote c' (.inr hc')
    exact ⟨c', hc', (hleft.result (.inr (by decide))).trans (by omega),
      (hleft.carry f rfl).trans (by omega)⟩
  · obtain ⟨-, ⟨r, f, ⟨hr, hf, hsum⟩, ⟨c', hc'⟩, hwrote⟩, -⟩ :=
      registers_compute (byHand [setConst 15 200]) (x := 15) (y := 15) (by decide) (by decide)
    have h200 : ((byHand [setConst 15 200]).machine.reg 15).toNat = 200 := rfl
    exact ⟨c', hc', ((hwrote c' (.inr hc')).carry f rfl).trans (by omega)⟩

end Console

end Chip8
