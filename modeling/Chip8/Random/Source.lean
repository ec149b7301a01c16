-- Sources of random bytes: a repeated list, and a generator that splits its
-- key before each byte. The generator uses the Threefry block cipher on two
-- 32-bit words with twenty rounds, which turns a key and a counter into random
-- words.
import Chip8.Refusal
import Chip8.Word
namespace Chip8

/-- Anything that gives one random byte after the other. -/
class RandomSource (ρ : Type) where
  next : ρ → UInt8 × ρ

/-! ## Repeated bytes -/

/-- A list of bytes that starts over at its end. -/
structure ByteLoop where
  bytes : Array UInt8
  nonempty : 0 < bytes.size
  position : Nat

namespace ByteLoop

/-- The lowest bytes of some numbers, from the first one on. -/
def ofList (values : List Int) : Except Refusal ByteLoop :=
  let bytes := (values.map fun v => (lowByte v).toUInt8).toArray
  if h : 0 < bytes.size then .ok ⟨bytes, h, 0⟩ else .error .noRandomValues

/-- The byte at the position, and the loop behind it. -/
def next (l : ByteLoop) : UInt8 × ByteLoop :=
  have hPlace : l.position % l.bytes.size < l.bytes.size := Nat.mod_lt _ l.nonempty
  (l.bytes[l.position % l.bytes.size], { l with position := l.position + 1 })

instance : RandomSource ByteLoop := ⟨next⟩

end ByteLoop

/-! ## The cipher -/

namespace Random

/-- A pair of 32-bit words, a key or a block. -/
structure Block where
  first : UInt32
  second : UInt32
deriving DecidableEq, Repr

/-- The bits of a word turned to the left. -/
def rotated (v turn : UInt32) : UInt32 := (v <<< turn) ||| (v >>> (32 - turn))

/-- One round: the words are added and the second one is turned and mixed. -/
def round (b : Block) (turn : UInt32) : Block :=
  let sum := b.first + b.second
  ⟨sum, rotated b.second turn ^^^ sum⟩

/-- The turns of the rounds, four at a time. -/
def evenTurns : List UInt32 := [13, 15, 26, 6]

/-- The turns of every other four rounds. -/
def oddTurns : List UInt32 := [17, 29, 16, 24]

/-- The third word of the key, which makes the other two hard to cancel. -/
def parityWord (key : Block) : UInt32 := key.first ^^^ key.second ^^^ 0x1BD11BDA

/-- Four rounds and the words of the key that follow them. -/
def fourRounds (turns : List UInt32) (a b count : UInt32) (block : Block) : Block :=
  let mixed := turns.foldl round block
  ⟨mixed.first + a, mixed.second + b + count⟩

/-- A block under a key. -/
def encrypt (key block : Block) : Block :=
  let third := parityWord key
  let start : Block := ⟨block.first + key.first, block.second + key.second⟩
  start
    |> fourRounds evenTurns key.second third 1
    |> fourRounds oddTurns third key.first 2
    |> fourRounds evenTurns key.first key.second 3
    |> fourRounds oddTurns key.second third 4
    |> fourRounds evenTurns third key.first 5

end Random

/-! ## A generator that splits its key -/

/-- A generator, by its key. -/
structure Splitting where
  key : Random.Block
deriving DecidableEq, Repr

namespace Splitting

/-- A generator from a seed of 64 bits with a sign, of which the lower half
counts. -/
def ofSeed (seed : Int) : Except Refusal Splitting :=
  if -0x8000000000000000 ≤ seed ∧ seed < 0x8000000000000000 then
    .ok ⟨0, (seed % 0x100000000).toNat.toUInt32⟩
  else .error .tooLargeForWord

/-- A byte from half of the key; the other half is the new key. -/
def next (s : Splitting) : UInt8 × Splitting :=
  let half := Random.encrypt s.key ⟨0, 1⟩
  let used := Random.encrypt half ⟨0, 1⟩
  let word := Random.encrypt used ⟨0, 0⟩
  ((word.first ^^^ word.second).toUInt8, ⟨Random.encrypt s.key ⟨0, 0⟩⟩)

instance : RandomSource Splitting := ⟨next⟩

end Splitting

/-! ## Either source -/

/-- A source of one of the two kinds. -/
inductive AnyRandom where
  | loop (l : ByteLoop)
  | splitting (s : Splitting)

namespace AnyRandom

/-- The next byte of the source. -/
def next : AnyRandom → UInt8 × AnyRandom
  | loop l => (l.next.1, loop l.next.2)
  | splitting s => (s.next.1, splitting s.next.2)

instance : RandomSource AnyRandom := ⟨next⟩

end AnyRandom

/-- The next bytes of a source. -/
def RandomSource.take {ρ : Type} [RandomSource ρ] : Nat → ρ → List UInt8
  | 0, _ => []
  | n + 1, r => (RandomSource.next r).1 :: take n (RandomSource.next r).2

end Chip8
