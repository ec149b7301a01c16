-- The log of a long run: its configuration, its speed from time to time and
-- its end.
import Chip8.Journal.Registry
import Chip8.Text.Value
namespace Chip8

/-- A logger that remembers what it told last about a run. -/
structure RunLog where
  logger : Logger
  /-- The number of steps at the last status line. -/
  steps : Int
  /-- The time of the last status line. -/
  time : Float

namespace RunLog

/-- The name of run logs, unless another one is chosen. -/
def defaultName : Text.Value := .text "chip8vm.run"

/-- A run log that follows the settings where nothing else is asked for. -/
def new (s : LogSettings) (name : Text.Value) (c : LogChange) (now : Float) :
    Except Refusal RunLog :=
  let l := Logger.new name (c.level.getD s.level) (c.stream.getD s.stream)
    (c.colors.getD s.colors) (c.timestamps.getD s.timestamps) now
  l.map fun logger => ⟨logger, 0, now⟩

/-- A line of information. -/
def info (r : RunLog) (now : Float) (message : String) : List String :=
  (r.logger.log now Level.info.name message).toList

/-- The line between sections. -/
def rule : String := String.ofList (List.replicate 60 '=')

/-- The lines that tell the configuration of a run. -/
def startLines (r : RunLog) (now : Float) (config : List (String × Text.Value)) : List String :=
  r.info now rule ++ r.info now "Starting emulator with configuration:"
    ++ config.flatMap (fun (name, v) => r.info now ("  " ++ name ++ ": " ++ v.shown))
    ++ r.info now rule

/-- The seconds between status lines. -/
def statusInterval : Float := 5

/-- The wording of a status line. -/
def statusText (steps pc : Int) (rate : Float) : String :=
  "Step " ++ Text.rightJustified 8 (toString steps) ++ " | PC 0x" ++ Text.hex 3 pc ++ " | "
    ++ Text.rightJustified 7 (Text.fixedPlaces 1 rate) ++ " steps/s"

/-- The rate of a run: the steps since the last status line in a second. The
rate has no value when no time has passed. -/
def rate (r : RunLog) (now : Float) (steps : Float) : Except Refusal Float :=
  let elapsed := now - r.time
  if elapsed == 0 then .error .zeroRate else .ok (steps / elapsed)

/-- A status line, if the last one was long enough ago. -/
def status (r : RunLog) (now : Float) (steps pc : Int) (interval : Float) :
    Except Refusal (List String) × RunLog :=
  if now - r.time < interval then (.ok [], r)
  else
    match (Text.floatOfWhole (steps - r.steps)).mapError .value >>= r.rate now with
    | .error e => (.error e, r)
    | .ok rate => (.ok (r.info now (statusText steps pc rate)), { r with steps, time := now })

/-- The lines that tell the end of a run. -/
def endLines (r : RunLog) (now : Float) (steps : String) : List String :=
  let elapsed := Text.fixedPlaces 1 (now - r.logger.start)
  r.info now rule
    ++ r.info now ("Run finished after " ++ steps ++ " steps in " ++ elapsed ++ "s")
    ++ r.info now rule

end RunLog

end Chip8
