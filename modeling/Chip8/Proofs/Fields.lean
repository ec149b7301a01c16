-- The fields of a word as quotients and remainders of its number, so that
-- facts about them are linear arithmetic.
import Chip8.Word
namespace Chip8

/-! ## Lowest bits -/

theorem lowByte_lt (v : Int) : lowByte v < 0x100 := by
  unfold lowByte
  omega

theorem lowWord_lt (v : Int) : lowWord v < 0x10000 := by
  unfold lowWord
  omega

/-- A number that fits 16 bits is its own lowest word. -/
theorem lowWord_of_fits {v : Int} (h0 : 0 ≤ v) (h : v < 0x10000) : (lowWord v : Int) = v := by
  unfold lowWord
  omega

theorem lowWord_emod (v : Int) : lowWord (v % 0x10000) = lowWord v := by
  unfold lowWord
  omega

/-- Bits kept of the first nibble and of the rest, each on its own side. -/
theorem and_split (w mask : Nat) :
    w &&& mask = 0x1000 * (w / 0x1000 &&& mask / 0x1000) + (w % 0x1000 &&& mask % 0x1000) := by
  have hdiv : (w &&& mask) / 0x1000 = w / 0x1000 &&& mask / 0x1000 :=
    Nat.and_div_two_pow (n := 12)
  have hmod : (w &&& mask) % 0x1000 = w % 0x1000 &&& mask % 0x1000 :=
    Nat.and_mod_two_pow (n := 12)
  rw [← hdiv, ← hmod, Nat.div_add_mod]

/-- The high byte stands above the low one. -/
theorem joinBytes_eq (high low : Int) :
    joinBytes high low = 0x100 * lowByte high + lowByte low := by
  unfold joinBytes
  rw [Nat.shiftLeft_eq, Nat.mul_comm]
  exact (Nat.two_pow_add_eq_or_of_lt (i := 8) (lowByte_lt low) (lowByte high)).symm

/-! ## Fields of a word -/

namespace Fields

variable (w : Int)

theorem raw_ofWord : (ofWord w).raw = lowWord w := rfl

theorem family_ofWord : (ofWord w).family = lowWord w / 0x1000 :=
  Nat.shiftRight_eq_div_pow _ _

theorem x_ofWord : (ofWord w).x = lowWord w / 0x100 % 0x10 := by
  have hshift : lowWord w >>> 8 = lowWord w / 0x100 := Nat.shiftRight_eq_div_pow _ _
  rw [← hshift]
  exact Nat.and_two_pow_sub_one_eq_mod _ 4

theorem y_ofWord : (ofWord w).y = lowWord w / 0x10 % 0x10 := by
  have hshift : lowWord w >>> 4 = lowWord w / 0x10 := Nat.shiftRight_eq_div_pow _ _
  rw [← hshift]
  exact Nat.and_two_pow_sub_one_eq_mod _ 4

theorem n_ofWord : (ofWord w).n = lowWord w % 0x10 :=
  Nat.and_two_pow_sub_one_eq_mod _ 4

theorem nn_ofWord : (ofWord w).nn = lowWord w % 0x100 :=
  Nat.and_two_pow_sub_one_eq_mod _ 8

theorem nnn_ofWord : (ofWord w).nnn = lowWord w % 0x1000 :=
  Nat.and_two_pow_sub_one_eq_mod _ 12

/-- What ties the fields of a word to its number. All else about them follows
by linear arithmetic. -/
structure Consistent (f : Fields) : Prop where
  family_lt : f.family < 0x10
  x_lt : f.x < 0x10
  y_lt : f.y < 0x10
  n_lt : f.n < 0x10
  raw_eq : f.raw = 0x1000 * f.family + f.nnn
  nnn_eq : f.nnn = 0x100 * f.x + f.nn
  nn_eq : f.nn = 0x10 * f.y + f.n

theorem consistent_ofWord : (ofWord w).Consistent := by
  have h := lowWord_lt w
  constructor <;>
    simp only [raw_ofWord, family_ofWord, x_ofWord, y_ofWord, n_ofWord, nn_ofWord, nnn_ofWord] <;>
    omega

end Fields

end Chip8
