-- Keys as they are typed: a text of one digit is a key, in decimal digits of
-- any script or in the letters a to f.
import Chip8.Text.Numeral
import Chip8.Text.Quoted
namespace Chip8

/-- The value of a letter as a digit in base sixteen. -/
def letterDigit? (c : Char) : Option Nat :=
  if 'a' ≤ c ∧ c ≤ 'f' then some (c.toNat - 'a'.toNat + 10)
  else if 'A' ≤ c ∧ c ≤ 'F' then some (c.toNat - 'A'.toNat + 10)
  else none

/-- The key that a character names. -/
def keyOfChar? (c : Char) : Option Nat :=
  match Text.decimalDigit? c with
  | some v => some v
  | none => letterDigit? c

/-- The key that a text names. A text of several characters, or of none, names
no key. -/
def keyOfText? (s : String) : Option Nat :=
  match s.toList with
  | [c] => keyOfChar? c
  | _ => none

/-! ## Raw keys -/

/-- Anything that a reader of keys can give. -/
class RawSymbol (ρ : Type) where
  /-- The key that it names. -/
  key? : ρ → Option Nat
  /-- As messages show it. -/
  shown : ρ → String

/-- What a reader of keys gives: a text, or the number of a key that has no
text. -/
inductive RawKey where
  | text (s : String)
  | code (n : Int)
deriving DecidableEq, Repr

namespace RawKey

/-- A raw key as messages show it. -/
def shown : RawKey → String
  | text s => Text.quoted s
  | code n => toString n

/-- The key of a raw key. Numbers name no key. -/
def key? : RawKey → Option Nat
  | text s => keyOfText? s
  | code _ => none

instance : RawSymbol RawKey := ⟨key?, shown⟩

end RawKey

end Chip8
