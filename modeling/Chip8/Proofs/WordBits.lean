-- The fields of a word are bits of the number that it was cut from, and they
-- fit together again. Of a negative number, these are the bits in two's
-- complement, with ones all the way to the left.
import Mathlib.Data.Int.Bitwise
import Chip8.Proofs.Fields
namespace Chip8

/-! ## Bits of a number -/

/-- `v` consists of `width` bits of `w`, from the bit `first` on. -/
def HasBits (v : Nat) (w : Int) (first width : Nat) : Prop :=
  ∀ k, v.testBit k = (decide (k < width) && w.testBit (first + k))

theorem hasBits_emod (w : Int) (width : Nat) : HasBits (w % (2 ^ width : Nat)).toNat w 0 width := by
  intro k
  rw [Nat.zero_add]
  cases w with
  | ofNat n =>
    show (n % 2 ^ width).testBit k = _
    rw [Nat.testBit_mod_two_pow]
    rfl
  | negSucc n =>
    have hpos : 0 < 2 ^ width := Nat.two_pow_pos width
    have hlt : n % 2 ^ width < 2 ^ width := Nat.mod_lt n hpos
    -- the remainder of `-(n + 1)` has the bits that the remainder of `n` has not
    have hflip : (Int.negSucc n % (2 ^ width : Nat)).toNat = 2 ^ width - (n % 2 ^ width + 1) := by
      rw [Int.negSucc_emod n (Int.natCast_pos.2 hpos)]
      omega
    rw [hflip, Nat.testBit_two_pow_sub_succ hlt, Nat.testBit_mod_two_pow]
    by_cases hk : k < width
    · simp [hk, Int.testBit]
    · simp [hk]

/-- Bits that are cut out of some bits of a number are bits of this number. -/
theorem HasBits.cut {v first width : Nat} {w : Int} (h : HasBits v w first width)
    {skipped kept : Nat} (hfit : skipped + kept ≤ width) :
    HasBits (v / 2 ^ skipped % 2 ^ kept) w (first + skipped) kept := by
  intro k
  rw [Nat.testBit_mod_two_pow, Nat.testBit_div_two_pow, h]
  by_cases hk : k < kept
  · have hin : k + skipped < width := by omega
    have hplace : first + (k + skipped) = first + skipped + k := by omega
    simp [hk, hin, hplace]
  · simp [hk]

namespace Fields

/-- Each field holds its own bits of a number. -/
structure CutFrom (f : Fields) (w : Int) : Prop where
  raw : HasBits f.raw w 0 16
  family : HasBits f.family w 12 4
  x : HasBits f.x w 8 4
  y : HasBits f.y w 4 4
  n : HasBits f.n w 0 4
  nn : HasBits f.nn w 0 8
  nnn : HasBits f.nnn w 0 12

theorem cutFrom_ofWord (w : Int) : (ofWord w).CutFrom w := by
  have hraw : HasBits (lowWord w) w 0 16 := hasBits_emod w 16
  have hlt := lowWord_lt w
  have hcut (skipped kept : Nat) (hfit : skipped + kept ≤ 16) :
      HasBits (lowWord w / 2 ^ skipped % 2 ^ kept) w skipped kept := by
    have h := hraw.cut hfit
    rwa [Nat.zero_add] at h
  constructor
  · exact hraw
  · have hfamily : (ofWord w).family = lowWord w / 2 ^ 12 % 2 ^ 4 := by
      rw [family_ofWord]
      omega
    rw [hfamily]
    exact hcut 12 4 (by decide)
  · rw [x_ofWord]
    exact hcut 8 4 (by decide)
  · rw [y_ofWord]
    exact hcut 4 4 (by decide)
  -- the last three fields reach down to the lowest bit
  · rw [n_ofWord, ← Nat.div_one (lowWord w)]
    exact hcut 0 4 (by decide)
  · rw [nn_ofWord, ← Nat.div_one (lowWord w)]
    exact hcut 0 8 (by decide)
  · rw [nnn_ofWord, ← Nat.div_one (lowWord w)]
    exact hcut 0 12 (by decide)

/-! ## The bytes of a word -/

theorem high_ofWord (w : Int) : (ofWord w).high = lowWord w / 0x100 :=
  Nat.shiftRight_eq_div_pow _ _

theorem low_ofWord (w : Int) : (ofWord w).low = lowWord w % 0x100 := nn_ofWord w

theorem joinBytes_ofWord (w : Int) : joinBytes (ofWord w).high (ofWord w).low = (ofWord w).raw := by
  have hlt := lowWord_lt w
  rw [joinBytes_eq, high_ofWord, low_ofWord, raw_ofWord]
  unfold lowByte
  omega

theorem raw_ofBytes (high low : Int) : (ofBytes high low).raw = joinBytes high low := by
  have hhigh := lowByte_lt high
  have hlow := lowByte_lt low
  have hfits : (lowWord (joinBytes high low) : Int) = joinBytes high low := by
    apply lowWord_of_fits
    · exact Int.natCast_nonneg _
    · rw [joinBytes_eq]
      omega
  exact Int.natCast_inj.1 hfits

theorem bytes_ofBytes (high low : Int) :
    (ofBytes high low).high = lowByte high ∧ (ofBytes high low).low = lowByte low := by
  have hhigh := lowByte_lt high
  have hlow := lowByte_lt low
  have hraw := raw_ofBytes high low
  rw [joinBytes_eq] at hraw
  constructor
  · show (ofBytes high low).raw >>> 8 = _
    rw [Nat.shiftRight_eq_div_pow, hraw]
    omega
  · show (ofBytes high low).raw &&& 0xFF = _
    rw [Nat.and_two_pow_sub_one_eq_mod _ 8, hraw]
    omega

/-- The fields of a number of any size and sign are its lowest bits, each its own,
and they make up the word again. A word is joined from its two bytes, and two
numbers that are joined come back as their lowest bytes, so bytes come back as
they were. -/
theorem fields_recompose :
    (∀ w : Int, let f := ofWord w
      f.CutFrom w ∧ (f.raw : Int) = w % 65536 ∧
      f.raw = 4096 * f.family + f.nnn ∧ f.raw = 256 * f.high + f.low ∧
      f.nnn = 256 * f.x + f.nn ∧ f.nn = 16 * f.y + f.n ∧
      f.family ≤ 15 ∧ f.x ≤ 15 ∧ f.y ≤ 15 ∧ f.n ≤ 15 ∧
      joinBytes f.high f.low = f.raw ∧ ofBytes f.high f.low = f) ∧
    (∀ high low : Int, let f := ofBytes high low
      (f.high : Int) = high % 256 ∧ (f.low : Int) = low % 256 ∧
      ofWord (joinBytes high low) = f) ∧
    ∀ high low : UInt8, let f := ofWord (joinBytes high.toNat low.toNat)
      f.high = high.toNat ∧ f.low = low.toNat := by
  have hlowByte (v : Int) : (lowByte v : Int) = v % 256 := by
    unfold lowByte
    omega
  refine ⟨fun w => ?_, fun high low => ?_, fun high low => ?_⟩
  · obtain ⟨hfamily, hx, hy, hn, hraw, hnnn, hnn⟩ := consistent_ofWord w
    have hjoin := joinBytes_ofWord w
    have hmod : ((ofWord w).raw : Int) = w % 65536 := by
      rw [raw_ofWord]
      unfold lowWord
      omega
    have hbytes : (ofWord w).raw = 256 * (ofWord w).high + (ofWord w).low := by
      rw [high_ofWord, low_ofWord, raw_ofWord]
      omega
    have hagain : ofBytes (ofWord w).high (ofWord w).low = ofWord w := by
      unfold ofBytes
      rw [hjoin, hmod]
      unfold ofWord
      rw [lowWord_emod]
    exact ⟨cutFrom_ofWord w, hmod, hraw, hbytes, hnnn, hnn, Nat.le_of_lt_succ hfamily,
      Nat.le_of_lt_succ hx, Nat.le_of_lt_succ hy, Nat.le_of_lt_succ hn, hjoin, hagain⟩
  · obtain ⟨hhigh, hlow⟩ := bytes_ofBytes high low
    refine ⟨?_, ?_, rfl⟩
    · rw [hhigh, hlowByte]
    · rw [hlow, hlowByte]
  · obtain ⟨hhigh, hlow⟩ := bytes_ofBytes high.toNat low.toNat
    have hkept (v : UInt8) : lowByte v.toNat = v.toNat := by
      have hlt := v.toNat_lt
      unfold lowByte
      omega
    exact ⟨hhigh.trans (hkept high), hlow.trans (hkept low)⟩

example : (ofWord (-2)).nibbles = [15, 15, 15, 14] := rfl

end Fields

end Chip8
