-- Loggers: each has a name, a level below which it is silent, a stream and a
-- look. A line shows the time since the logger began, the level, the name
-- and the message.
import Chip8.Journal.Notice
import Chip8.Refusal
import Chip8.Text.Capital
import Chip8.Text.Figure
namespace Chip8

/-- Where lines are written. Only a terminal shows colours. -/
structure Stream where
  name : String
  terminal : Bool
deriving DecidableEq, Repr

/-- The stream that is used unless another one is chosen. -/
def Stream.standard : Stream := ⟨"stdout", false⟩

namespace Level

/-- The level of a name in any case. -/
def parse (name : String) : Except Refusal Level :=
  match ofName? (Text.capitals name) with
  | some level => .ok level
  | none => .error (.unknownLevel name)

/-- The rank of a name in capitals. A name of no level ranks as information. -/
def rankOfName (name : String) : Nat := ((ofName? name).map rank).getD info.rank

/-- The mark that turns on the colour of a level. -/
def color : Level → String
  | debug => "\x1b[36m"
  | info => "\x1b[32m"
  | warning => "\x1b[33m"
  | error => "\x1b[31m"
  | critical => "\x1b[35m"

/-- The mark that turns colours off. -/
def colorEnd : String := "\x1b[0m"

/-- The mark that turns on the colour of a level's name. -/
def colorOfName (name : String) : String := ((ofName? name).map color).getD ""

end Level

structure Logger where
  /-- The name, usually a text. -/
  name : Text.Value
  level : Level
  stream : Stream
  colors : Bool
  timestamps : Bool
  /-- The time when the logger began. -/
  start : Float

namespace Logger

/-- A logger with a level that may be given wrong. -/
def new (name : Text.Value) (level : String) (stream : Stream) (colors timestamps : Bool)
    (now : Float) :
    Except Refusal Logger :=
  (Level.parse level).map fun level =>
    { name, level, stream, timestamps, colors := colors && stream.terminal, start := now }

/-- The logger with another level. -/
def setLevel (l : Logger) (level : String) : Except Refusal Logger :=
  (Level.parse level).map fun level => { l with level }

/-- The logger with colours on or off. They stay off unless it writes to a
terminal. -/
def setColors (l : Logger) (colors : Bool) : Logger :=
  { l with colors := colors && l.stream.terminal }

/-- Whether the logger writes messages of a level. -/
def isEnabledFor (l : Logger) (level : String) : Bool :=
  l.level.rank ≤ Level.rankOfName (Text.capitals level)

/-- The level of a line between brackets. -/
def levelField (l : Logger) (level : String) : String :=
  let field := "[" ++ Text.rightJustified 8 level ++ "]"
  if l.colors then Level.colorOfName level ++ field ++ Level.colorEnd else field

/-- A line without its end. The level is given in capitals. -/
def line (l : Logger) (now : Float) (level message : String) : String :=
  let time :=
    if l.timestamps then
      "[" ++ Text.rightJustified 8 (Text.fixedPlaces 2 (now - l.start)) ++ "s]"
    else ""
  time ++ l.levelField level ++ "[" ++ l.name.shown ++ "] " ++ message

/-- The line that a message makes, if the logger writes it. -/
def log (l : Logger) (now : Float) (level message : String) : Option String :=
  let level := Text.capitals level
  if l.isEnabledFor level then some (l.line now level message) else none

end Logger

end Chip8
