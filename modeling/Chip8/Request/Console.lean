-- What a console does on request: words, programs and numbers of steps that
-- are values of any kind, and changes of its machine by hand.
import Chip8.Request.Effect
import Chip8.Run.Runner
import Chip8.Text.HexBytes
namespace Chip8

open Text

/-! ## Programs -/

/-- The bytes of a text of hexadecimal digits, which has to be one. -/
def bytesOfText (v : Value) : Except ValueProblem (List UInt8) :=
  match v with
  | .text s => bytesOfHex s
  | v => .error (.noText v.kind)

/-- The elements of a value as bytes, up to the first that is none. -/
def bytesOfElements : List Value → Except Refusal (List UInt8)
  | [] => .ok []
  | v :: rest => do
    let n ← ofValue v.toCount
    if n < 0 ∨ 0xFF < n then .error .notBytes
    else return n.toNat.toUInt8 :: (← bytesOfElements rest)

/-- The most zeros that there is room for. -/
def roomForZeros : Int := 0x100000000

/-- The bytes of a value: the elements of a list, or as many zeros as a number
says. -/
def bytesOfValue (v : Value) : Except Refusal (List UInt8) :=
  match v with
  | .list _ | .record _ => ofValue v.toElements >>= bytesOfElements
  | .text _ => .error (.value .textBytes)
  | v =>
    match v.whole? with
    | none => .error (.value (.noBytes v.kind))
    | some n =>
      if n < 0 then .error (.value .negativeCount)
      else if roomForZeros < n then .error .noZeros
      else .ok (List.replicate n.toNat 0)

/-- The program of a request: its bytes, or digits that may be repeated. -/
def programOf (request : Value) : Except Refusal (List UInt8) :=
  match request.field? "bytes" with
  | some v => bytesOfValue v
  | none => do
    let once ← ofValue (bytesOfText (← needed request "hex"))
    let times := fieldOr request "times" (.whole 1)
    match times.whole? with
    | some n => return (List.replicate n.toNat once).flatten
    | none => .error (.value (.noRepeat times.kind))

namespace Console

variable {κ σ ρ : Type}

/-- Does something with a value, unless it was refused. -/
def withValue {α β : Type} (c : Console κ σ ρ) (value : Except Refusal β)
    (act : β → Except Refusal α × Console κ σ ρ) : Except Refusal α × Console κ σ ρ :=
  match value with
  | .error r => (.error r, c)
  | .ok v => act v

/-- Loads the program of a request. -/
def loadRequest (c : Console κ σ ρ) (request : Value) : Except Refusal Unit × Console κ σ ρ :=
  c.withValue (programOf request) fun program => (.ok (), c.loadBytes program)

/-- Puts the program of a request into memory and does not keep it. -/
def overlayRequest (c : Console κ σ ρ) (request : Value) : Except Refusal Unit × Console κ σ ρ :=
  c.withValue (programOf request) fun program => (.ok (), c.overlay program)

variable [Keypad κ] [Screen σ] [RandomSource ρ]

/-- An answer that may be a fault, as one that may be a refusal. -/
def refused {α : Type} (answer : Except Fault α × Console κ σ ρ) :
    Except Refusal α × Console κ σ ρ :=
  (answer.1.mapError .fault, answer.2)

/-- Carries out the instruction of a word. -/
def executeValue (c : Console κ σ ρ) (word : Value) : Except Refusal Unit × Console κ σ ρ :=
  c.withValue (ofValue word.toWhole) fun word => refused (c.executeWord word)

/-- Carries out one thing after the other until the first that fails. -/
def untilRefusal {α : Type} (act : Console κ σ ρ → α → Except Refusal Unit × Console κ σ ρ) :
    Console κ σ ρ → List α → Except Refusal Unit × Console κ σ ρ
  | c, [] => (.ok (), c)
  | c, a :: rest =>
    match act c a with
    | (.ok (), c) => untilRefusal act c rest
    | (.error r, c) => (.error r, c)

/-- Carries out the instructions of words until the first that fails. -/
def executeValues (c : Console κ σ ρ) (words : Value) : Except Refusal Unit × Console κ σ ρ :=
  c.withValue (ofValue words.toElements) fun words => c.untilRefusal executeValue words

/-- Carries out the instruction that a request describes. -/
def executeRequest (c : Console κ σ ρ) (request : Value) : Except Refusal Unit × Console κ σ ρ :=
  c.withValue (MadeInstruction.ofRequest request) c.executeMade

/-- Carries out the instructions that requests describe until the first that
fails. All of them are made before. -/
def executeRequests (c : Console κ σ ρ) (requests : Value) :
    Except Refusal Unit × Console κ σ ρ :=
  let made := do (← ofValue requests.toElements).mapM MadeInstruction.ofRequest
  c.withValue made fun is => c.untilRefusal executeMade is

/-- A number of steps, which is told before it is counted. -/
def stepCount (steps : Value) : Except ValueProblem Int := do
  let _ ← steps.asGrouped
  match steps.whole? with
  | some n => return n
  | none => .error (.noCount steps.kind)

/-- Carries out a number of instructions and shows the screen at the end. -/
def runBatchOf (c : Console κ σ ρ) (steps : Value) : Except Refusal Nat × Console κ σ ρ :=
  c.withValue (ofValue (stepCount steps)) fun n => refused (c.runBatch n)

end Console

/-! ## Changes by hand -/

/-- The whole number that a table of numbers is given for a value. It fits
half a word. -/
def entryOf (v : Value) : Except ValueProblem Int :=
  match v with
  | .text s => .error (.textEntry (quoted s) s.length)
  | .none | .list _ | .record _ => .error (.noEntry v.shown)
  | .float f =>
    match Binary64.ofFloat f with
    | .finite negative mantissa exponent => .ok (truncated negative mantissa exponent)
    | _ => .ok 0
  | v =>
    let n := v.whole?.getD 0
    if fitsHalfWord n then .ok n else .error (.notHalfWord n)

namespace Machine

/-- The machine with a value in the register of a hexadecimal name. -/
def pokeRegister (m : Machine) (name : String) (v : Value) : Except ValueProblem Machine :=
  match hexNumber? name with
  | none => .error (.noNumeral 16 (quoted name))
  | some x => do
    let n ← entryOf v
    return { m with registers := m.registers.setIfInBounds x (lowByte n).toUInt8 }

def pokeMemory (m : Machine) (address bytes : Value) : Except ValueProblem Machine := do
  return m.writeBytes (← address.toCount).toNat (← bytesOfText bytes)

/-- The machine with a value in a cell of the call stack. -/
def pokeCell (m : Machine) (place v : Value) : Except ValueProblem Machine := do
  let n ← entryOf v
  match place.whole? with
  | some k => return { m with stack := m.stack.setCell k (lowWord n).toUInt16 }
  | none => .error (.noPlace "float64")

/-- The machine after a pair of values was used for each element of a list. -/
def pokeEach (m : Machine) (pairs : Value)
    (act : Machine → Value → Value → Except ValueProblem Machine) : Except ValueProblem Machine :=
  match pairs with
  | .none => .ok m
  | pairs => do
    (← pairs.toElements).foldlM (fun m pair => do
      let (a, b) ← pair.toPair
      act m a b) m

/-- The number that a request gives for a part of the machine. -/
def pokedNumber (request : Value) (name : String) (old : Nat) : Except ValueProblem Int :=
  match request.field? name with
  | some v => entryOf v
  | none => .ok old

/-- The depth of the call stack that a request gives, which may be any number. -/
def pokedDepth (request : Value) (old : Int) : Except ValueProblem Int :=
  match request.field? "sp" with
  | some v => v.toWhole
  | none => .ok old

/-- The machine with the parts changed that a request gives. -/
def poke (m : Machine) (request : Value) : Except ValueProblem Machine := do
  let m ← (request.field "V").fields.foldlM (fun m (name, v) => m.pokeRegister name v) m
  let m ← m.pokeEach (request.field "mem") pokeMemory
  let m ← m.pokeEach (request.field "stack") pokeCell
  let depth ← pokedDepth request m.stack.depth
  let pc ← pokedNumber request "pc" m.pc.toNat
  let index ← pokedNumber request "I" m.index.toNat
  let delay ← pokedNumber request "dt" m.delay.toNat
  let sound ← pokedNumber request "st" m.sound.toNat
  return { m with
    stack := { m.stack with depth }
    pc := (lowWord pc).toUInt16
    index := (lowWord index).toUInt16
    delay := (lowByte delay).toUInt8
    sound := (lowByte sound).toUInt8 }

end Machine

/-- The console with its machine changed by hand. -/
def Console.poke {κ σ ρ : Type} (c : Console κ σ ρ) (request : Value) :
    Except Refusal Unit × Console κ σ ρ :=
  c.withValue (ofValue (c.machine.poke request)) fun machine => (.ok (), { c with machine })

end Chip8
