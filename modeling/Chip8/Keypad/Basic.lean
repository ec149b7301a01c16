-- What the machine reads keys from. Two simple keypads: one that nobody
-- touches, and one with a key held down for ever.
import Chip8.Fault
import Chip8.Journal.Notice
namespace Chip8

/-- Anything that keys can be read from. Reading may change it. -/
class Keypad (κ : Type) where
  /-- The key that is held now, if any. It stays where it is. -/
  peek : κ → Option Int × κ
  /-- The next key. The wait for it may fail. -/
  wait : κ → Except Fault Int × κ
  /-- What the keypad tells the journal when a wait begins. -/
  announcement : κ → Option Notice

/-- Anything that can stand for a key. Whole numbers stand for themselves. -/
class KeyCode (κ : Type) where
  /-- What stands for the key of a number. -/
  ofKey : Int → κ
  /-- The number that a key is compared as. -/
  number? : κ → Option Int
  /-- The number that a register is given for a key. -/
  stored : κ → Except Fault Int
  /-- Whether a wait takes it for no key at all. -/
  isNothing : κ → Bool

instance : KeyCode Int where
  ofKey := id
  number? := some
  stored := .ok
  isNothing _ := false

/-- A keypad that nobody touches. A wait does not block and gives key 0. -/
structure SilentKeypad where
deriving DecidableEq, Repr

instance : Keypad SilentKeypad where
  peek k := (none, k)
  wait k := (.ok 0, k)
  announcement _ := none

/-- A keypad with one key held down. -/
structure HeldKeypad where
  key : Int
deriving DecidableEq, Repr

instance : Keypad HeldKeypad where
  peek k := (some k.key, k)
  wait k := (.ok k.key, k)
  announcement _ := none

end Chip8
