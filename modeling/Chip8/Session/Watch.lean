-- A paced run of a desk in planned surroundings: how long each question
-- whether to stop takes, after how many the answer is yes, and whether sleeps
-- take time. What the run does is written down.
import Chip8.Request.Values
import Chip8.Session.Desk
import Chip8.Text.Conversion
namespace Chip8

/-- The surroundings of a run. -/
structure Plan where
  /-- The run is stopped after this many turns. -/
  stopAfter : Int
  /-- The time that each question takes, over and over. -/
  costs : List Float
  /-- Whether closing the input stops the run. -/
  stopsOnClose : Bool
  sleepAdvances : Bool
  /-- Whether frames are written down. -/
  countsFrames : Bool
  /-- What is wrong with the time from one frame to the next. It comes to light
  after the first step. -/
  frameProblem : Option Text.ValueProblem

/-- A run and what it did, the latest in front. -/
structure Watched where
  desk : Desk
  runLog : Option RunLog
  /-- How often the run asked whether to stop. -/
  asked : Nat
  sleeps : List Float
  /-- The program counter at each frame. -/
  frames : List UInt16
  refreshes : Nat

namespace Watched

/-- A run that begins. -/
def start (desk : Desk) (runLog : Option RunLog) : Watched := ⟨desk, runLog, 0, [], [], 0⟩

/-- The run after some time. -/
def advance (w : Watched) (span : Float) : Watched := { w with desk := w.desk.advance span }

/-- The next question whether to stop. -/
def ask (plan : Plan) (w : Watched) : Bool × Watched :=
  let cost := (plan.costs[w.asked % plan.costs.length]?).getD 0
  let w := { w with asked := w.asked + 1 }.advance cost
  (plan.stopAfter < w.asked || plan.stopsOnClose && w.desk.keyboard.closed, w)

/-- Writes a status line if one is due. -/
def status (steps : Nat) (w : Watched) : Watched :=
  match w.runLog with
  | none => w
  | some r =>
    let pc := w.desk.console.machine.pc.toNat
    match r.status w.desk.now steps pc RunLog.statusInterval with
    | (.ok lines, r) => { w with runLog := some r, desk := w.desk.writeRun r lines }
    | (.error _, r) => { w with runLog := some r }

/-- The surroundings of a plan. -/
def host (plan : Plan) : Host Watched Float where
  now w := (w.desk.now, w)
  shouldStop := ask plan
  step w :=
    let (answer, desk) := w.desk.act w.desk.now Console.step
    match answer, plan.frameProblem with
    | .ok (), some p => (.error (.value p), { w with desk })
    | answer, _ => (answer, { w with desk })
  refresh w :=
    let desk := { w.desk with console := w.desk.console.refresh }
    { w with desk, refreshes := w.refreshes + 1 }
  onFrame w :=
    if plan.countsFrames then { w with frames := w.desk.console.machine.pc :: w.frames } else w
  status := status
  sleep span w :=
    let w := { w with sleeps := span :: w.sleeps }
    if plan.sleepAdvances then w.advance span else w
  pc w := w.desk.console.machine.pc
  tell n w := { w with desk := (w.desk.act w.desk.now fun c => ((), c.tell [n])).2 }

/-- The number of turns that a plan allows, and one more for the stop. -/
def turnsOf (plan : Plan) : Nat := plan.stopAfter.toNat + 2

/-- Carries out a plan. -/
def play (plan : Plan) (r : Rates Float) (w : Watched) : Except SessionError Nat × Watched :=
  (host plan).play w.desk.problem? r (turnsOf plan) w

end Watched

/-! ## Requests -/

namespace Plan

open Text

/-- The number of turns of a value. The turn under way does not count. -/
def turnsOf : Value → Int
  | .float f => floorOf f
  | v => v.whole?.getD 0

/-- The time from one frame to the next that a request asks for. -/
def frameOf (request : Value) : Value := fieldOr request "refresh" (.float (1 / 60))

/-- The surroundings that a request describes. -/
def ofRequest (request : Value) : Plan :=
  let told (name : String) (otherwise : Bool) : Bool :=
    (fieldOr request name (.flag otherwise)).truth
  let frame := frameOf request
  { stopAfter := turnsOf (request.field "stop_after")
    costs := (fieldOr request "costs" (.list [.whole 0])).elements.filterMap (·.float?)
    stopsOnClose := told "stop_event" false
    sleepAdvances := told "sleep_advances" true
    countsFrames := told "on_frame" true
    frameProblem :=
      if frame.number?.isSome then none else some (.noOrder ">=" "float" frame.kind) }

/-- The rates that a request asks for. -/
def ratesOf (request : Value) : Except Refusal (Rates Float) := do
  let rate := fieldOr request "sps" (.whole 120)
  match rate.number? with
  | none => .error (.value (.noOperation "/" "float" rate.kind))
  | some n =>
    return { period := ← Host.period (← ofValue n.double)
             frame := (frameOf request).float?.getD 0 }

end Plan

end Chip8
