-- Instruction words of 16 bits and the bit fields that the instruction
-- patterns name. Words come from whole numbers of any size and sign; only
-- their lowest 16 bits count.
namespace Chip8

/-! ## Bits of whole numbers

A negative number has infinitely many ones to the left, so `-1` is all ones. -/

/-- The bits that both numbers have. -/
def bitAnd : Int → Int → Int
  | .ofNat a, .ofNat b => .ofNat (a &&& b)
  | .ofNat a, .negSucc b => .ofNat (a ^^^ (a &&& b))
  | .negSucc a, .ofNat b => .ofNat (b ^^^ (a &&& b))
  | .negSucc a, .negSucc b => .negSucc (a ||| b)

/-- The bits that at least one of the numbers has. -/
def bitOr : Int → Int → Int
  | .ofNat a, .ofNat b => .ofNat (a ||| b)
  | .ofNat a, .negSucc b => .negSucc (b ^^^ (a &&& b))
  | .negSucc a, .ofNat b => .negSucc (a ^^^ (a &&& b))
  | .negSucc a, .negSucc b => .negSucc (a &&& b)

/-- The bits that exactly one of the numbers has. -/
def bitXor : Int → Int → Int
  | .ofNat a, .ofNat b => .ofNat (a ^^^ b)
  | .ofNat a, .negSucc b => .negSucc (a ^^^ b)
  | .negSucc a, .ofNat b => .negSucc (a ^^^ b)
  | .negSucc a, .negSucc b => .ofNat (a ^^^ b)

/-- The lowest byte of a number. -/
def lowByte (v : Int) : Nat := (v % 0x100).toNat

/-- The lowest 16 bits of a number. -/
def lowWord (v : Int) : Nat := (v % 0x10000).toNat

/-! ## Fields -/

/-- An instruction word cut into its fields. -/
structure Fields where
  /-- The whole word. -/
  raw : Nat
  /-- The first nibble, which chooses the family of the instruction. -/
  family : Nat
  /-- The second nibble, a register. -/
  x : Nat
  /-- The third nibble, a register. -/
  y : Nat
  /-- The fourth nibble. -/
  n : Nat
  /-- The last byte. -/
  nn : Nat
  /-- The last twelve bits, an address. -/
  nnn : Nat
deriving DecidableEq, Repr

/-- The word whose high and low bytes are the lowest bytes of two numbers. -/
def joinBytes (high low : Int) : Nat := (lowByte high <<< 8) ||| lowByte low

/-- The fields of the lowest 16 bits of a number. -/
def Fields.ofWord (word : Int) : Fields :=
  let raw := lowWord word
  { raw := raw
    family := raw >>> 12
    x := (raw >>> 8) &&& 0xF
    y := (raw >>> 4) &&& 0xF
    n := raw &&& 0xF
    nn := raw &&& 0xFF
    nnn := raw &&& 0xFFF }

/-- The fields of the word that two bytes make. -/
def Fields.ofBytes (high low : Int) : Fields := .ofWord (joinBytes high low)

/-- The first byte of the word. -/
def Fields.high (f : Fields) : Nat := f.raw >>> 8

/-- The second byte of the word. -/
def Fields.low (f : Fields) : Nat := f.nn

/-- The four nibbles, the first one in front. -/
def Fields.nibbles (f : Fields) : List Nat := [f.family, f.x, f.y, f.n]

end Chip8
