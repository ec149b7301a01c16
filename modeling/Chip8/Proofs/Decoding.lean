-- Decoding is exact: the words that stand for an instruction are those that
-- match a pattern, and writing and reading instructions undo each other.
import Chip8.Instruction.Encoding
import Chip8.Proofs.Fields
namespace Chip8.Instruction

/-! ## What is read is legal and is written the same -/

/-- What an instruction keeps of its word. The shifts do not carry the third
nibble, and have zero there. -/
def kept (i : Instruction) (word : Nat) : Nat :=
  match i with
  | shiftRight _ | shiftLeft _ => 0x100 * (word / 0x100) + word % 0x10
  | _ => word

/-- An instruction stands for the word of some fields. -/
structure StandsFor (i : Instruction) (f : Fields) : Prop where
  legal : i.Legal
  encode_eq : i.encode = i.kept f.raw

theorem standsFor_ofSystem {f : Fields} (hf : f.Consistent) (hfam : f.family = 0) :
    (ofSystem f).StandsFor f := by
  obtain ⟨-, hx, hy, hn, hraw, hnnn, hnn⟩ := hf
  unfold ofSystem
  split
  · constructor
    · simp [Legal, operands]
    · simp only [encode, kept]
      omega
  · split
    · constructor
      · simp [Legal, operands]
      · simp only [encode, kept]
        omega
    · constructor <;> simp [Legal, operands, Fits, Operand.limit, encode, kept] <;> omega

theorem standsFor_of_ofArithmetic? {f : Fields} {i : Instruction} (hf : f.Consistent)
    (hfam : f.family = 8) (h : ofArithmetic? f = some i) : i.StandsFor f := by
  obtain ⟨-, hx, hy, hn, hraw, hnnn, hnn⟩ := hf
  unfold ofArithmetic? at h
  split at h <;> cases h <;> constructor <;>
    simp [Legal, operands, Fits, Operand.limit, encode, kept] <;> omega

theorem standsFor_of_ofKeyTest? {f : Fields} {i : Instruction} (hf : f.Consistent)
    (hfam : f.family = 0xE) (h : ofKeyTest? f = some i) : i.StandsFor f := by
  obtain ⟨-, hx, hy, hn, hraw, hnnn, hnn⟩ := hf
  unfold ofKeyTest? at h
  split at h <;> cases h <;> constructor <;>
    simp [Legal, operands, Fits, Operand.limit, encode, kept] <;> omega

theorem standsFor_of_ofService? {f : Fields} {i : Instruction} (hf : f.Consistent)
    (hfam : f.family = 0xF) (h : ofService? f = some i) : i.StandsFor f := by
  obtain ⟨-, hx, hy, hn, hraw, hnnn, hnn⟩ := hf
  unfold ofService? at h
  split at h <;> cases h <;> constructor <;>
    simp [Legal, operands, Fits, Operand.limit, encode, kept] <;> omega

/-- Whatever is read from consistent fields stands for their word. -/
theorem standsFor_of_ofFields? {f : Fields} {i : Instruction} (hf : f.Consistent)
    (h : ofFields? f = some i) : i.StandsFor f := by
  have hall := hf
  obtain ⟨-, hx, hy, hn, hraw, hnnn, hnn⟩ := hf
  unfold ofFields? at h
  split at h
  case h_1 hfam => exact Option.some.inj h ▸ standsFor_ofSystem hall hfam
  case h_9 hfam => exact standsFor_of_ofArithmetic? hall hfam h
  case h_15 hfam => exact standsFor_of_ofKeyTest? hall hfam h
  case h_16 hfam => exact standsFor_of_ofService? hall hfam h
  case h_17 => cases h
  case h_6 | h_10 =>
    split at h <;> cases h
    constructor <;> simp [Legal, operands, Fits, Operand.limit, encode, kept] <;> omega
  all_goals
    cases h
    constructor <;> simp [Legal, operands, Fits, Operand.limit, encode, kept] <;> omega

/-! ## Legal instructions are accepted -/

theorem misfit?_eq_none_iff {i : Instruction} : i.misfit? = none ↔ i.Legal := by
  simp [misfit?, Legal]

theorem validate_eq_ok_iff {i j : Instruction} : i.validate = .ok j ↔ i.Legal ∧ i = j := by
  rw [← misfit?_eq_none_iff]
  unfold validate
  split <;> simp_all

/-! ## What is written is read again

But for the system family and sprites, a word is built in one of four ways. In
each, its fields are the parts that it was built from, so a family that reads
these fields gives them back. -/

section
variable {f : Fields} {a : Nat} {x y nn nnn : Int}

theorem ofFields?_of_address {c : Int → Instruction}
    (hc : ∀ g : Fields, g.family = a → ofFields? g = some (c g.nnn)) (hf : f.Consistent)
    (hnnn : Fits .nnn nnn) (h : (f.raw : Int) = 0x1000 * a + nnn) :
    ofFields? f = some (c nnn) := by
  obtain ⟨-, _, _, _, _, _, _⟩ := hf
  simp only [Fits, Operand.limit] at hnnn
  rw [hc f (by omega), show (f.nnn : Int) = nnn by omega]

theorem ofFields?_of_constant {c : Int → Int → Instruction}
    (hc : ∀ g : Fields, g.family = a → ofFields? g = some (c g.x g.nn)) (hf : f.Consistent)
    (hx : Fits .x x) (hnn : Fits .nn nn) (h : (f.raw : Int) = 0x1000 * a + 0x100 * x + nn) :
    ofFields? f = some (c x nn) := by
  obtain ⟨-, _, _, _, _, _, _⟩ := hf
  simp only [Fits, Operand.limit] at hx hnn
  rw [hc f (by omega), show (f.x : Int) = x by omega, show (f.nn : Int) = nn by omega]

theorem ofFields?_of_nibbles {n : Nat} {c : Int → Int → Instruction}
    (hc : ∀ g : Fields, g.family = a → g.n = n → ofFields? g = some (c g.x g.y))
    (hf : f.Consistent) (hx : Fits .x x) (hy : Fits .y y) (hn : n < 0x10)
    (h : (f.raw : Int) = 0x1000 * a + 0x100 * x + 0x10 * y + n) : ofFields? f = some (c x y) := by
  obtain ⟨-, _, _, _, _, _, _⟩ := hf
  simp only [Fits, Operand.limit] at hx hy
  rw [hc f (by omega) (by omega), show (f.x : Int) = x by omega, show (f.y : Int) = y by omega]

theorem ofFields?_of_byte {b : Nat} {c : Int → Instruction}
    (hc : ∀ g : Fields, g.family = a → g.nn = b → ofFields? g = some (c g.x))
    (hf : f.Consistent) (hx : Fits .x x) (hb : b < 0x100)
    (h : (f.raw : Int) = 0x1000 * a + 0x100 * x + b) : ofFields? f = some (c x) := by
  obtain ⟨-, _, _, _, _, _, _⟩ := hf
  simp only [Fits, Operand.limit] at hx
  rw [hc f (by omega) (by omega), show (f.x : Int) = x by omega]

end

theorem ofFields?_of_raw_eq_encode {f : Fields} {i : Instruction} (hf : f.Consistent)
    (hi : i.Legal) (h1 : i ≠ sysCall 0x0E0) (h2 : i ≠ sysCall 0x0EE)
    (h : (f.raw : Int) = i.encode) : ofFields? f = some i := by
  cases i <;> simp [Legal, operands] at hi <;> simp only [encode] at h
  case sysCall nnn =>
    obtain ⟨-, _, _, _, _, _, _⟩ := hf
    simp only [Fits, Operand.limit, ne_eq, sysCall.injEq] at hi h1 h2
    have hfam : f.family = 0 := by omega
    have hnnn : (f.nnn : Int) = nnn := by omega
    simp [ofFields?, ofSystem, hfam, hnnn, show f.raw ≠ 0xE0 by omega, show f.raw ≠ 0xEE by omega]
  case clearScreen =>
    obtain ⟨-, _, _, _, _, _, _⟩ := hf
    simp [ofFields?, ofSystem, show f.family = 0 by omega, show f.raw = 0xE0 by omega]
  case ret =>
    obtain ⟨-, _, _, _, _, _, _⟩ := hf
    simp [ofFields?, ofSystem, show f.family = 0 by omega, show f.raw = 0xEE by omega]
  case draw x y n =>
    obtain ⟨-, _, _, _, _, _, _⟩ := hf
    simp only [Fits, Operand.limit] at hi
    have hfam : f.family = 0xD := by omega
    have hx : (f.x : Int) = x := by omega
    have hy : (f.y : Int) = y := by omega
    have hn : (f.n : Int) = n := by omega
    simp [ofFields?, hfam, hx, hy, hn]
  case goto nnn =>
    exact ofFields?_of_address (a := 1) (by simp +contextual [ofFields?]) hf hi h
  case call nnn =>
    exact ofFields?_of_address (a := 2) (by simp +contextual [ofFields?]) hf hi h
  case setIndex nnn =>
    exact ofFields?_of_address (a := 0xA) (by simp +contextual [ofFields?]) hf hi h
  case jumpOffset nnn =>
    exact ofFields?_of_address (a := 0xB) (by simp +contextual [ofFields?]) hf hi h
  case skipEqConst x nn =>
    exact ofFields?_of_constant (a := 3) (by simp +contextual [ofFields?]) hf hi.1 hi.2 h
  case skipNeqConst x nn =>
    exact ofFields?_of_constant (a := 4) (by simp +contextual [ofFields?]) hf hi.1 hi.2 h
  case setConst x nn =>
    exact ofFields?_of_constant (a := 6) (by simp +contextual [ofFields?]) hf hi.1 hi.2 h
  case addConst x nn =>
    exact ofFields?_of_constant (a := 7) (by simp +contextual [ofFields?]) hf hi.1 hi.2 h
  case rand x nn =>
    exact ofFields?_of_constant (a := 0xC) (by simp +contextual [ofFields?]) hf hi.1 hi.2 h
  case skipEqReg x y =>
    exact ofFields?_of_nibbles (a := 5) (n := 0) (by simp +contextual [ofFields?]) hf hi.1 hi.2
      (by decide) (by omega)
  case setReg x y =>
    exact ofFields?_of_nibbles (a := 8) (n := 0)
      (by simp +contextual [ofFields?, ofArithmetic?]) hf hi.1 hi.2 (by decide) (by omega)
  case or x y =>
    exact ofFields?_of_nibbles (a := 8) (n := 1)
      (by simp +contextual [ofFields?, ofArithmetic?]) hf hi.1 hi.2 (by decide) (by omega)
  case and x y =>
    exact ofFields?_of_nibbles (a := 8) (n := 2)
      (by simp +contextual [ofFields?, ofArithmetic?]) hf hi.1 hi.2 (by decide) (by omega)
  case xor x y =>
    exact ofFields?_of_nibbles (a := 8) (n := 3)
      (by simp +contextual [ofFields?, ofArithmetic?]) hf hi.1 hi.2 (by decide) (by omega)
  case addReg x y =>
    exact ofFields?_of_nibbles (a := 8) (n := 4)
      (by simp +contextual [ofFields?, ofArithmetic?]) hf hi.1 hi.2 (by decide) (by omega)
  case subReg x y =>
    exact ofFields?_of_nibbles (a := 8) (n := 5)
      (by simp +contextual [ofFields?, ofArithmetic?]) hf hi.1 hi.2 (by decide) (by omega)
  case subRegReversed x y =>
    exact ofFields?_of_nibbles (a := 8) (n := 7)
      (by simp +contextual [ofFields?, ofArithmetic?]) hf hi.1 hi.2 (by decide) (by omega)
  case skipNeqReg x y =>
    exact ofFields?_of_nibbles (a := 9) (n := 0) (by simp +contextual [ofFields?]) hf hi.1 hi.2
      (by decide) (by omega)
  case shiftRight x =>
    exact ofFields?_of_nibbles (a := 8) (n := 6) (c := fun x _ => shiftRight x)
      (by simp +contextual [ofFields?, ofArithmetic?]) hf hi (y := 0) (by decide) (by decide)
      (by omega)
  case shiftLeft x =>
    exact ofFields?_of_nibbles (a := 8) (n := 0xE) (c := fun x _ => shiftLeft x)
      (by simp +contextual [ofFields?, ofArithmetic?]) hf hi (y := 0) (by decide) (by decide)
      (by omega)
  case skipKeyPressed x =>
    exact ofFields?_of_byte (a := 0xE) (b := 0x9E)
      (by simp +contextual [ofFields?, ofKeyTest?]) hf hi (by decide) (by omega)
  case skipKeyNotPressed x =>
    exact ofFields?_of_byte (a := 0xE) (b := 0xA1)
      (by simp +contextual [ofFields?, ofKeyTest?]) hf hi (by decide) (by omega)
  case getDelay x =>
    exact ofFields?_of_byte (a := 0xF) (b := 7)
      (by simp +contextual [ofFields?, ofService?]) hf hi (by decide) (by omega)
  case waitKey x =>
    exact ofFields?_of_byte (a := 0xF) (b := 0xA)
      (by simp +contextual [ofFields?, ofService?]) hf hi (by decide) (by omega)
  case setDelay x =>
    exact ofFields?_of_byte (a := 0xF) (b := 0x15)
      (by simp +contextual [ofFields?, ofService?]) hf hi (by decide) (by omega)
  case setSound x =>
    exact ofFields?_of_byte (a := 0xF) (b := 0x18)
      (by simp +contextual [ofFields?, ofService?]) hf hi (by decide) (by omega)
  case addToIndex x =>
    exact ofFields?_of_byte (a := 0xF) (b := 0x1E)
      (by simp +contextual [ofFields?, ofService?]) hf hi (by decide) (by omega)
  case setIndexToGlyph x =>
    exact ofFields?_of_byte (a := 0xF) (b := 0x29)
      (by simp +contextual [ofFields?, ofService?]) hf hi (by decide) (by omega)
  case storeDigits x =>
    exact ofFields?_of_byte (a := 0xF) (b := 0x33)
      (by simp +contextual [ofFields?, ofService?]) hf hi (by decide) (by omega)
  case dumpRegisters x =>
    exact ofFields?_of_byte (a := 0xF) (b := 0x55)
      (by simp +contextual [ofFields?, ofService?]) hf hi (by decide) (by omega)
  case loadRegisters x =>
    exact ofFields?_of_byte (a := 0xF) (b := 0x65)
      (by simp +contextual [ofFields?, ofService?]) hf hi (by decide) (by omega)

/-! ## The words that are instructions -/

theorem isSome_ofArithmetic? (f : Fields) :
    (ofArithmetic? f).isSome ↔ f.n ∈ [0, 1, 2, 3, 4, 5, 6, 7, 0xE] := by
  unfold ofArithmetic?
  split <;> simp_all

theorem isSome_ofKeyTest? (f : Fields) : (ofKeyTest? f).isSome ↔ f.nn ∈ [0x9E, 0xA1] := by
  unfold ofKeyTest?
  split <;> simp_all

theorem isSome_ofService? (f : Fields) :
    (ofService? f).isSome ↔ f.nn ∈ [0x07, 0x0A, 0x15, 0x18, 0x1E, 0x29, 0x33, 0x55, 0x65] := by
  unfold ofService?
  split <;> simp_all

/-! A mask keeps the first nibble and some of the lowest bits, and the two are
compared each on its own. -/

theorem and_mask {f : Fields} (hf : f.Consistent) {b : Nat} (hb : b < 0x1000) :
    f.raw &&& (0xF000 + b) = 0x1000 * f.family + (f.nnn &&& b) := by
  obtain ⟨_, _, _, _, _, _, _⟩ := hf
  have hfam : f.family &&& 0xF = f.family := by
    rw [Nat.and_two_pow_sub_one_eq_mod _ 4]
    omega
  rw [and_split, show f.raw / 0x1000 = f.family by omega, show f.raw % 0x1000 = f.nnn by omega,
    show (0xF000 + b) / 0x1000 = 0xF by omega, show (0xF000 + b) % 0x1000 = b by omega, hfam]

theorem matches_iff {f : Fields} (hf : f.Consistent) {b : Nat} (hb : b < 0x1000) (v : Nat) :
    Pattern.Matches ⟨0xF000 + b, v⟩ f.raw ↔
      f.family = v / 0x1000 ∧ f.nnn &&& b = v % 0x1000 := by
  have hle : f.nnn &&& b ≤ b := Nat.and_le_right
  unfold Pattern.Matches
  simp only [and_mask hf hb]
  omega

theorem matches_family {f : Fields} (hf : f.Consistent) (v : Nat) :
    Pattern.Matches ⟨0xF000, v⟩ f.raw ↔ f.family = v / 0x1000 ∧ 0 = v % 0x1000 := by
  have h := matches_iff hf (b := 0) (by decide) v
  rwa [Nat.and_zero] at h

theorem matches_nibble {f : Fields} (hf : f.Consistent) (v : Nat) :
    Pattern.Matches ⟨0xF00F, v⟩ f.raw ↔ f.family = v / 0x1000 ∧ f.n = v % 0x1000 := by
  have hn : f.nnn &&& 0xF = f.n := by
    obtain ⟨_, _, _, _, _, _, _⟩ := hf
    rw [Nat.and_two_pow_sub_one_eq_mod _ 4]
    omega
  rw [← hn]
  exact matches_iff hf (b := 0xF) (by decide) v

theorem matches_byte {f : Fields} (hf : f.Consistent) (v : Nat) :
    Pattern.Matches ⟨0xF0FF, v⟩ f.raw ↔ f.family = v / 0x1000 ∧ f.nn = v % 0x1000 := by
  have hnn : f.nnn &&& 0xFF = f.nn := by
    obtain ⟨_, _, _, _, _, _, _⟩ := hf
    rw [Nat.and_two_pow_sub_one_eq_mod _ 8]
    omega
  rw [← hnn]
  exact matches_iff hf (b := 0xFF) (by decide) v

theorem matches_word {f : Fields} (hf : f.Consistent) (v : Nat) :
    Pattern.Matches ⟨0xFFFF, v⟩ f.raw ↔ f.family = v / 0x1000 ∧ f.nnn = v % 0x1000 := by
  have hnnn : f.nnn &&& 0xFFF = f.nnn := by
    obtain ⟨_, _, _, _, _, _, _⟩ := hf
    rw [Nat.and_two_pow_sub_one_eq_mod _ 12]
    omega
  rw [← hnnn]
  exact matches_iff hf (b := 0xFFF) (by decide) v

/-- The words that are read are those that match a pattern. -/
theorem isSome_ofFields? {f : Fields} (hf : f.Consistent) :
    (ofFields? f).isSome ↔ ∃ p ∈ patterns, p.Matches f.raw := by
  have hfam := hf.family_lt
  simp only [patterns, List.mem_cons, List.not_mem_nil, or_false, exists_eq_or_imp,
    exists_eq_left, matches_family hf, matches_nibble hf, matches_byte hf, matches_word hf]
  unfold ofFields?
  split
  case h_9 h => simp [h, isSome_ofArithmetic?]
  case h_15 h => simp [h, isSome_ofKeyTest?]
  case h_16 h => simp [h, isSome_ofService?]
  case h_17 => exfalso; grind
  all_goals simp [*]

/-! ## Decoding of whole numbers -/

theorem ofWord_eq_ok_iff {w : Int} {i : Instruction} :
    ofWord w = .ok i ↔ ofFields? (.ofWord w) = some i := by
  unfold ofWord ofFields
  split <;> simp_all

theorem ofWord_eq_error_iff {w : Int} {fault : Fault} :
    ofWord w = .error fault ↔
      (∀ p ∈ patterns, ¬ p.Matches (lowWord w)) ∧ fault = .unknownOpcode (w % 0x10000) none := by
  have hsome := isSome_ofFields? (Fields.consistent_ofWord w)
  have hraw : ((Fields.ofWord w).raw : Int) = w % 0x10000 := by
    rw [Fields.raw_ofWord]
    unfold lowWord
    omega
  rw [Fields.raw_ofWord] at hsome
  unfold ofWord ofFields
  split <;> rename_i h
  · rw [h] at hsome
    simp only [reduceCtorEq, false_iff, not_and]
    intro hnone
    obtain ⟨p, hp, hmatch⟩ := hsome.1 rfl
    exact absurd hmatch (hnone p hp)
  · rw [h] at hsome
    simp only [Except.error.injEq, hraw]
    constructor
    · rintro rfl
      exact ⟨fun p hp hmatch => by simpa using hsome.2 ⟨p, hp, hmatch⟩, rfl⟩
    · rintro ⟨-, rfl⟩
      rfl

/-- Only the lowest 16 bits of a word count. -/
theorem ofWord_emod (w : Int) : ofWord (w % 0x10000) = ofWord w := by
  unfold ofWord Fields.ofWord
  rw [lowWord_emod]

/-- Two bytes make the word in which the first one stands above the second. -/
theorem ofBytes_eq_ofWord (high low : Int) :
    ofBytes high low = ofWord (high % 0x100 * 0x100 + low % 0x100) := by
  unfold ofBytes ofWord Fields.ofBytes
  rw [joinBytes_eq]
  congr 2
  unfold lowByte
  omega

/-- An instruction that was read from a word is legal, and its word is the one
that it was read from. -/
theorem standsFor_of_ofWord {w : Int} {i : Instruction} (h : ofWord w = .ok i) :
    i.StandsFor (.ofWord w) :=
  standsFor_of_ofFields? (Fields.consistent_ofWord w) (ofWord_eq_ok_iff.1 h)

theorem ofWord_encode {i : Instruction} (hi : i.Legal) (h1 : i ≠ sysCall 0x0E0)
    (h2 : i ≠ sysCall 0x0EE) : ofWord i.encode = .ok i := by
  have hbound : 0 ≤ i.encode ∧ i.encode < 0x10000 := by
    cases i <;> simp [Legal, operands, Fits, Operand.limit] at hi <;> simp only [encode] <;> omega
  rw [ofWord_eq_ok_iff]
  refine ofFields?_of_raw_eq_encode (Fields.consistent_ofWord _) hi h1 h2 ?_
  rw [Fields.raw_ofWord]
  exact lowWord_of_fits hbound.1 hbound.2

/-- Decoding is exact. The lowest 16 bits of a number decide what is read. A
word that matches no pattern is refused by its number, and every other one
gives a legal instruction that is written as this word again, but for the
third nibble of a shift. Every legal instruction is read from its own word,
but for the two native calls that clear the screen and return. Two bytes are
read as the word that they make. -/
theorem decoding_is_exact :
    (∀ w : Int, ofWord w = ofWord (w % 0x10000)) ∧
    (∀ w : Int, ofWord w = .error (.unknownOpcode (w % 0x10000) none) ↔
      ∀ p ∈ patterns, ¬ p.Matches (lowWord w)) ∧
    (∀ w : Int, (∃ p ∈ patterns, p.Matches (lowWord w)) →
      ∃ i, ofWord w = .ok i ∧ i.validate = .ok i ∧ i.encode = i.kept (lowWord w)) ∧
    (∀ i : Instruction, i.validate = .ok i → i ≠ sysCall 0x0E0 → i ≠ sysCall 0x0EE →
      ofWord i.encode = .ok i) ∧
    (∀ high low : Int, ofBytes high low = ofWord (high % 0x100 * 0x100 + low % 0x100)) := by
  refine ⟨fun w => (ofWord_emod w).symm, fun w => ?_, fun w hw => ?_, ?_, ofBytes_eq_ofWord⟩
  · rw [ofWord_eq_error_iff]
    simp
  · cases h : ofWord w with
    | error fault =>
      obtain ⟨p, hp, hmatch⟩ := hw
      exact absurd hmatch ((ofWord_eq_error_iff.1 h).1 p hp)
    | ok i =>
      obtain ⟨hlegal, hencode⟩ := standsFor_of_ofWord h
      exact ⟨i, rfl, validate_eq_ok_iff.2 ⟨hlegal, rfl⟩, hencode⟩
  · intro i hi
    exact ofWord_encode (validate_eq_ok_iff.1 hi).1

/-- A number below zero that is refused, one of more than 16 bits that is a
shift, and a call that is read from its word. -/
theorem decoding_is_exact_beyond_words :
    ofWord (-1) = .error (.unknownOpcode 0xFFFF none) ∧
    (∃ i, ofWord 0x18AB6 = .ok i ∧ i.validate = .ok i ∧ i.encode = i.kept 0x8AB6) ∧
    ofWord (call 0x300).encode = .ok (call 0x300) := by
  obtain ⟨-, hrefused, hread, hwritten, -⟩ := decoding_is_exact
  refine ⟨(hrefused (-1)).2 (by decide), hread 0x18AB6 (by decide), ?_⟩
  exact hwritten (call 0x300) rfl (by decide) (by decide)

end Chip8.Instruction
