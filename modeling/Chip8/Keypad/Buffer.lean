-- A buffer of keypresses that go stale. A key is fresh for a while after it
-- was pressed; stale keys at the front are dropped whenever the buffer is
-- used. A full buffer drops its oldest key for a new one.
import Chip8.Refusal
import Chip8.Time.Basic
namespace Chip8

/-- A key and the time when it was pressed. -/
structure Keypress (κ τ : Type) where
  key : κ
  time : τ
deriving DecidableEq, Repr

/-- Keypresses, the oldest in front. -/
structure KeyBuffer (κ τ : Type) where
  /-- How long a key stays fresh. -/
  timeout : τ
  /-- How many keys fit, if there is a limit. -/
  capacity : Option Nat
  presses : List (Keypress κ τ)
deriving DecidableEq, Repr

namespace KeyBuffer

variable {κ τ : Type} [Time τ]

/-- An empty buffer with a capacity that may be given wrong. -/
def ofCapacity (timeout : τ) (capacity : Option Int) : Except Refusal (KeyBuffer κ τ) :=
  match capacity with
  | none => .ok ⟨timeout, none, []⟩
  | some n =>
    if !Text.fitsWord n then .error .capacityTooLarge
    else if n < 0 then .error .negativeCapacity
    else .ok ⟨timeout, some n.toNat, []⟩

/-- Whether a keypress is younger than the timeout. -/
def Fresh (b : KeyBuffer κ τ) (now : τ) (p : Keypress κ τ) : Prop := now - p.time < b.timeout

instance (b : KeyBuffer κ τ) (now : τ) (p : Keypress κ τ) : Decidable (b.Fresh now p) :=
  inferInstanceAs (Decidable (_ < _))

/-- The buffer without the stale keys at its front. -/
def cleaned (b : KeyBuffer κ τ) (now : τ) : KeyBuffer κ τ :=
  { b with presses := b.presses.dropWhile fun p => ¬ b.Fresh now p }

/-- The last keypresses of a list, as many as fit. -/
def lastOf (capacity : Option Nat) (l : List (Keypress κ τ)) : List (Keypress κ τ) :=
  match capacity with
  | none => l
  | some n => l.drop (l.length - n)

/-- The buffer with a new key. -/
def push (b : KeyBuffer κ τ) (now : τ) (key : κ) : KeyBuffer κ τ :=
  let c := b.cleaned now
  { c with presses := lastOf b.capacity (c.presses ++ [⟨key, now⟩]) }

/-- The newest key. It stays in the buffer. -/
def peek (b : KeyBuffer κ τ) (now : τ) : Option κ × KeyBuffer κ τ :=
  let c := b.cleaned now
  (c.presses.getLast?.map (·.key), c)

/-- The oldest key, and the buffer without it. -/
def pop (b : KeyBuffer κ τ) (now : τ) : Option κ × KeyBuffer κ τ :=
  let c := b.cleaned now
  match c.presses with
  | [] => (none, c)
  | p :: rest => (some p.key, { c with presses := rest })

/-- The number of keys in the buffer. -/
def size (b : KeyBuffer κ τ) (now : τ) : Nat × KeyBuffer κ τ :=
  let c := b.cleaned now
  (c.presses.length, c)

/-- The buffer without its keys. -/
def clear (b : KeyBuffer κ τ) : KeyBuffer κ τ := { b with presses := [] }

end KeyBuffer

end Chip8
