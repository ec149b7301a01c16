-- The loggers that the parts of the program share, by name, and the settings
-- that they follow.
import Chip8.Journal.Logger
import Chip8.Text.Conversion
namespace Chip8

/-- What loggers are made from. The level is kept as it was asked for. -/
structure LogSettings where
  level : String
  stream : Stream
  colors : Bool
  timestamps : Bool
deriving DecidableEq, Repr

/-- A change of settings; what is not given stays. -/
structure LogChange where
  level : Option String
  stream : Option Stream
  colors : Option Bool
  timestamps : Option Bool
deriving DecidableEq, Repr

namespace LogSettings

/-- The settings that hold at the start. -/
def initial : LogSettings := ⟨"WARNING", .standard, true, true⟩

/-- The settings after a change. A level is put into capitals. -/
def change (s : LogSettings) (c : LogChange) : LogSettings :=
  { level := (c.level.map Text.capitals).getD s.level
    stream := c.stream.getD s.stream
    colors := c.colors.getD s.colors
    timestamps := c.timestamps.getD s.timestamps }

/-- A logger made from the settings. -/
def logger (s : LogSettings) (name : Text.Value) (now : Float) : Except Refusal Logger :=
  Logger.new name s.level s.stream s.colors s.timestamps now

/-- A logger that follows the settings. The stream is changed first, and the
level may be refused after that. -/
def apply (s : LogSettings) (l : Logger) : Except Refusal Unit × Logger :=
  let l := { l with stream := s.stream }
  match l.setLevel s.level with
  | .error r => (.error r, l)
  | .ok l => (.ok (), { l.setColors s.colors with timestamps := s.timestamps })

end LogSettings

/-- The settings and the loggers that were asked for, the first one in front. -/
structure Registry where
  settings : LogSettings
  loggers : List Logger

namespace Registry

/-- The loggers of the parts of the program, as they are at the start. -/
def initial (now : Float) : Registry :=
  { settings := .initial
    loggers := Notice.parts.map fun name =>
      { name := .text name, level := .warning, stream := .standard, colors := false
        timestamps := true, start := now } }

def find? (r : Registry) (name : Text.Value) : Option Logger :=
  r.loggers.find? (·.name.same name)

/-- The logger of a name, made from the settings if there is none yet. Lists
and tables are no names. -/
def get (r : Registry) (name : Text.Value) (now : Float) : Except Refusal Logger × Registry :=
  match name.asKey, r.find? name with
  | .error p, _ => (.error (.value p), r)
  | .ok _, some l => (.ok l, r)
  | .ok _, none =>
    match r.settings.logger name now with
    | .ok l => (.ok l, { r with loggers := r.loggers ++ [l] })
    | .error e => (.error e, r)

/-- The registry with one of its loggers replaced. -/
def put (r : Registry) (l : Logger) : Registry :=
  { r with loggers := r.loggers.map fun m => if m.name.same l.name then l else m }

/-- Makes loggers follow the settings, one after the other, until one of them
refuses. -/
def applyAll (s : LogSettings) : List Logger → Except Refusal Unit × List Logger
  | [] => (.ok (), [])
  | l :: rest =>
    match s.apply l with
    | (.ok (), l) => let (answer, rest) := applyAll s rest; (answer, l :: rest)
    | (.error e, l) => (.error e, l :: rest)

/-- Changes the settings and every logger. -/
def configure (r : Registry) (c : LogChange) : Except Refusal Unit × Registry :=
  let settings := r.settings.change c
  let (answer, loggers) := applyAll settings r.loggers
  (answer, { settings, loggers })

/-- The line that a notice makes, if its part of the program writes it. -/
def lineOf (r : Registry) (now : Float) (n : Notice) : Option (Stream × String) := do
  let l ← r.find? (.text n.part)
  let line ← l.log now n.level.name n.text
  return (l.stream, line)

end Registry

end Chip8
