-- Runs of a console. One is as fast as possible and has a number of
-- instructions. The other goes at a steady rate: each turn asks whether to stop,
-- carries out one instruction, shows the screen when that is due, and sleeps
-- until the next turn. A turn that took too long is not caught up with.
import Chip8.Console
import Chip8.Time.Basic
namespace Chip8

/-! ## Runs as fast as possible -/

namespace Console

variable {κ σ ρ : Type} [Keypad κ] [Screen σ] [RandomSource ρ]

/-- Carries out instructions after `executed` others, and tells when a fault
of the program stops it. -/
def stepTimes : Nat → (executed : Nat) → Console κ σ ρ → Except Fault Nat × Console κ σ ρ
  | 0, executed, c => (.ok executed, c)
  | n + 1, executed, c =>
    match c.step with
    | (.ok (), c) => stepTimes n (executed + 1) c
    | (.error f, c) =>
      (.error f, if f.isProgramFault then c.tell [.halted executed c.machine.pc f] else c)

/-- Carries out a number of instructions and shows the screen at the end.
Fewer than none are none. -/
def runBatch (steps : Int) (c : Console κ σ ρ) : Except Fault Nat × Console κ σ ρ :=
  match stepTimes steps.toNat 0 c with
  | (.ok executed, c) => (.ok executed, c.refresh)
  | (.error f, c) => (.error f, c)

end Console

/-! ## Runs at a steady rate -/

/-- What a run needs from its surroundings. -/
structure Host (ε τ : Type) where
  /-- Reads the clock. -/
  now : ε → τ × ε
  /-- Asks whether to stop. -/
  shouldStop : ε → Bool × ε
  /-- Carries out one instruction. -/
  step : ε → Except Fault Unit × ε
  /-- Shows the screen. -/
  refresh : ε → ε
  /-- Is told that the screen was shown on time. -/
  onFrame : ε → ε
  /-- Is told the number of steps so far. -/
  status : Nat → ε → ε
  /-- Waits for some time. -/
  sleep : τ → ε → ε
  /-- The program counter. -/
  pc : ε → UInt16
  /-- Takes a notice. -/
  tell : Notice → ε → ε

/-- The rates of a run. -/
structure Rates (τ : Type) where
  /-- The time from one step to the next. -/
  period : τ
  /-- The time from one showing of the screen to the next. -/
  frame : τ

/-- Where a run stands between two turns. -/
structure Pace (τ : Type) where
  steps : Nat
  /-- When the next turn is due. -/
  due : τ
  /-- When the screen was last shown on time. -/
  shown : τ

/-- How a run ends. -/
inductive Ending (ε : Type) where
  /-- It was stopped, or its input was closed. -/
  | stopped (steps : Nat) (e : ε)
  /-- An instruction was not carried out. -/
  | failed (fault : Fault) (e : ε)
  /-- It was still going after as many turns as were allowed. -/
  | going (steps : Nat) (e : ε)

/-- What a turn leads to. -/
inductive Turn (ε τ : Type) where
  | next (p : Pace τ) (e : ε)
  | ended (ending : Ending ε)

namespace Host

variable {ε τ : Type} [Time τ]

/-- The time from one step to the next at a number of steps per second. -/
def period (rate : τ) : Except Refusal τ :=
  if rate ≤ 0 ∧ 0 ≤ rate then .error .zeroRate else .ok (1 / rate)

/-- The end of a run that was stopped: the screen is shown once more. -/
def stop (h : Host ε τ) (steps : Nat) (e : ε) : Turn ε τ := .ended (.stopped steps (h.refresh e))

/-- Shows the screen if that is due. -/
def showFrame (h : Host ε τ) (r : Rates τ) (shown : τ) (e : ε) : τ × ε :=
  let (now, e) := h.now e
  if r.frame ≤ now - shown then (now, h.onFrame (h.refresh e)) else (shown, e)

/-- Sleeps until the next turn is due, or makes it due now if it is late. -/
def rest (h : Host ε τ) (due : τ) (e : ε) : τ × ε :=
  let (now, e) := h.now e
  let delay := due - now
  if 0 < delay then (due, h.sleep delay e) else h.now e

/-- The part of a turn that follows a step. -/
def afterStep (h : Host ε τ) (r : Rates τ) (p : Pace τ) (e : ε) : Turn ε τ :=
  let steps := p.steps + 1
  let (shown, e) := h.showFrame r p.shown e
  let e := h.status steps e
  let (due, e) := h.rest (p.due + r.period) e
  .next { steps, due, shown } e

/-- One turn of a run. -/
def turn (h : Host ε τ) (r : Rates τ) (p : Pace τ) (e : ε) : Turn ε τ :=
  match h.shouldStop e with
  | (true, e) => h.stop p.steps e
  | (false, e) =>
    match h.step e with
    | (.ok (), e) => h.afterStep r p e
    | (.error (.inputClosed _), e) => h.stop p.steps (h.tell (.inputClosed p.steps) e)
    | (.error f, e) =>
      .ended (.failed f (if f.isProgramFault then h.tell (.halted p.steps (h.pc e) f) e else e))

/-- Turns until the run ends, as many as are allowed. -/
def turns (h : Host ε τ) (r : Rates τ) : Nat → Pace τ → ε → Ending ε
  | 0, p, e => .going p.steps e
  | limit + 1, p, e =>
    match h.turn r p e with
    | .next p e => turns h r limit p e
    | .ended ending => ending

/-- A run of at most `limit` turns. -/
def run (h : Host ε τ) (r : Rates τ) (limit : Nat) (e : ε) : Ending ε :=
  let (now, e) := h.now e
  h.turns r limit { steps := 0, due := now, shown := now } e

end Host

/-! ## Surroundings of a console -/

/-- What a run of a console needs besides the console. -/
structure Surroundings (ω τ : Type) where
  now : ω → τ × ω
  shouldStop : ω → Bool × ω
  onFrame : ω → ω
  status : Nat → ω → ω
  sleep : τ → ω → ω

/-- A console in its surroundings. -/
def Surroundings.host {κ σ ρ ω τ : Type} [Keypad κ] [Screen σ] [RandomSource ρ]
    (s : Surroundings ω τ) : Host (Console κ σ ρ × ω) τ where
  now := fun (c, w) => let (t, w) := s.now w; (t, c, w)
  shouldStop := fun (c, w) => let (b, w) := s.shouldStop w; (b, c, w)
  step := fun (c, w) => let (answer, c) := c.step; (answer, c, w)
  refresh := fun (c, w) => (c.refresh, w)
  onFrame := fun (c, w) => (c, s.onFrame w)
  status := fun steps (c, w) => (c, s.status steps w)
  sleep := fun span (c, w) => (c, s.sleep span w)
  pc := fun (c, _) => c.machine.pc
  tell := fun n (c, w) => (c.tell [n], w)

/-! ## Screens that cannot be shown -/

/-- A host that fails where it would show its screen. The second part of its
state tells whether it has tried. Then nothing happens in what is left of the
turn, and the next one asks to stop. -/
def Host.failing {ε τ : Type} (h : Host ε τ) : Host (ε × Bool) τ where
  now := fun (e, tried) => let (t, next) := h.now e; (t, if tried then e else next, tried)
  shouldStop := fun (e, tried) =>
    if tried then (true, e, tried) else let (stop, e) := h.shouldStop e; (stop, e, tried)
  step := fun (e, tried) => let (answer, e) := h.step e; (answer, e, tried)
  refresh := fun (e, _) => (e, true)
  onFrame := id
  status steps := fun (e, tried) => (if tried then e else h.status steps e, tried)
  sleep span := fun (e, tried) => (if tried then e else h.sleep span e, tried)
  pc := fun (e, _) => h.pc e
  tell n := fun (e, tried) => (h.tell n e, tried)

end Chip8
