-- Requests to loggers by name, with values of any kind. A value of a wrong
-- kind is refused only where the logger needs more of it than its text.
import Chip8.Journal.RunLog
import Chip8.Request.Values
namespace Chip8

/-! ## Making loggers -/

def Stream.ofName : String → Stream
  | "plain" => ⟨"plain", false⟩
  | "tty" => ⟨"tty", true⟩
  | _ => .standard

/-- A stream of a value, if it names one. -/
def Stream.ofValue? (v : Text.Value) : Option Stream := v.text?.map .ofName

namespace Logger

/-- The parameters of a new logger. -/
def signature : Signature :=
  { title := "ConsoleLogger.__init__", counted := 1, required := []
    optional := [("name", .text "chip8vm"), ("log_level", .text "WARNING"),
      ("use_colors", .flag true), ("show_timestamps", .flag true), ("stream", .none)] }

/-- A new logger with the values of its parameters. -/
def ofValues (now : Float) : List Text.Value → Except Refusal Logger
  | [name, level, colors, timestamps, stream] => do
    Logger.new name (← levelText level) ((Stream.ofValue? stream).getD .standard)
      colors.truth timestamps.truth now
  | _ => .error (.request signature.title (.missing signature.names))

/-- A new logger. -/
def ofRequest (g : Given) (now : Float) : Except Refusal Logger :=
  signature.values g >>= ofValues now

end Logger

namespace RunLog

/-- A new run log. What is not given by name follows the settings. -/
def ofRequest (s : LogSettings) (g : Given) (now : Float) : Except Refusal RunLog := do
  let isOwn (name : String) : Bool := name = "name" || name = Signature.ownerName
  let own := g.named.filter fun (name, _) => isOwn name
  let others := g.named.filter fun (name, _) => !isOwn name
  let names ← Signature.values
    ⟨"RunLogger.__init__", 1, [], [("name", defaultName)]⟩ ⟨g.placed, own⟩
  let _ ← Logger.signature.values ⟨names, others⟩
  let level ← ((others.lookup "log_level").map levelText).getD (.ok s.level)
  let stream := match others.lookup "stream" with
    | some v => (Stream.ofValue? v).getD .standard
    | none => s.stream
  let flag (name : String) (kept : Bool) := ((others.lookup name).map (·.truth)).getD kept
  let change : LogChange :=
    ⟨some level, some stream, some (flag "use_colors" s.colors),
      some (flag "show_timestamps" s.timestamps)⟩
  new s (names.head?.getD defaultName) change now

end RunLog

namespace LogChange

/-- The parameters of a change of settings. -/
def signature : Signature :=
  { title := "configure", counted := 0, required := []
    optional := [("log_level", .none), ("stream", .none), ("use_colors", .none),
      ("show_timestamps", .none)] }

/-- Whether a value that was given counts as a yes. -/
def truth? : Text.Value → Option Bool
  | .none => none
  | v => some v.truth

/-- A change of settings with the values of its parameters. -/
def ofValues : List Text.Value → Except Refusal LogChange
  | [level, stream, colors, timestamps] => do
    let level ← match level with
      | .none => pure none
      | v => (levelText v).map some
    return ⟨level, Stream.ofValue? stream, truth? colors, truth? timestamps⟩
  | _ => .ok ⟨none, none, none, none⟩

/-- A change of settings. -/
def ofRequest (g : Given) : Except Refusal LogChange := signature.values g >>= ofValues

end LogChange

/-! ## Asking loggers -/

namespace RunLog

/-- What a logger does on a request: its answer, the logger after it and the
lines that it writes. -/
abbrev Response := Except Refusal Text.Value × RunLog × List String

/-- A response that writes lines and gives nothing. -/
def wrote (r : RunLog) (lines : List String) : Response := (.ok .none, r, lines)

/-- Writes a message of a level. -/
def write (r : RunLog) (now : Float) (level : String) (message : Text.Value) : Response :=
  r.wrote (r.logger.log now level message.shown).toList

/-- Answers, unless there is a refusal. -/
def answer {α : Type} (r : RunLog) (value : Except Refusal α) (act : α → Response) : Response :=
  match value with
  | .error e => (.error e, r, [])
  | .ok a => act a

/-- The difference of a number of steps and the number at the last status
line. -/
def stepsSince (r : RunLog) : Text.Value → Except Refusal Float
  | .float f => (ofValue (Text.floatOfWhole r.steps)).map (f - ·)
  | v => match v.whole? with
    | some n => ofValue (Text.floatOfWhole (n - r.steps))
    | none => .error (.value (.noOperation "-" v.kind "int"))

/-- The time between status lines, which is compared with a number. -/
def intervalOf (v : Text.Value) : Except Refusal Float :=
  match v.float? with
  | some f => .ok f
  | none => .error (.value (.noOrder "<" "float" v.kind))

/-- A status line with values of any kind. They are looked at only when a
line is due: the steps for the rate, then both numbers for their text. -/
def statusOf (r : RunLog) (now : Float) (steps pc interval : Text.Value) : Response :=
  r.answer (intervalOf interval) fun interval =>
    if now - r.time < interval then r.wrote []
    else
      let numbers : Except Refusal (Int × Int) := do
        let _ ← r.rate now (← r.stepsSince steps)
        return (← ofValue (steps.asWhole 'd'), ← ofValue (pc.asWhole 'X'))
      r.answer numbers fun (steps, pc) =>
        match r.status now steps pc interval with
        | (.ok lines, r) => r.wrote lines
        | (.error e, r) => (.error e, r, [])

/-- The lines in front of a configuration that is no record. -/
def startOf (r : RunLog) (now : Float) : Text.Value → Response
  | .record fields => r.wrote (r.startLines now fields)
  | v => (.error (.value (.lacks v.kind "items")), r, (r.startLines now []).take 2)

/-- The requests that every logger knows, with what they need. -/
def plainRequests : List (String × List String) := [
  ("_format_message", ["level", "message"]),
  ("debug", ["message"]), ("info", ["message"]), ("warning", ["message"]),
  ("error", ["message"]), ("critical", ["message"]), ("log", ["level", "message"]),
  ("is_enabled_for", ["level"]), ("set_level", ["log_level"]), ("set_colors", ["use_colors"])]

/-- The requests that run logs know besides, with what they need. -/
def runRequests : List (String × List String) := [
  ("log_run_start", ["config"]), ("log_status", ["steps", "pc"]), ("log_run_end", ["steps"])]

/-- The parameters of a request by its name. `runs` tells whether the logger
is a run log. -/
def signatureOf (runs : Bool) (name : String) : Except Refusal Signature :=
  match plainRequests.lookup name, if runs then runRequests.lookup name else none with
  | some required, _ => .ok ⟨"ConsoleLogger." ++ name, 1, required, []⟩
  | none, some required =>
    let optional := if name = "log_status" then [("interval", .float statusInterval)] else []
    .ok ⟨"RunLogger." ++ name, 1, required, optional⟩
  | none, none =>
    .error (.value (.lacks (if runs then "RunLogger" else "ConsoleLogger") name))

/-- The kind of a stream, as messages show it. -/
def streamKind (s : Stream) : String := if s.terminal then "Tty" else "_io.StringIO"

/-- The kind of what a logger remembers under a name. -/
def memoryKind? (r : RunLog) (runs : Bool) (name : String) : Option String :=
  let l := r.logger
  match name with
  | "name" => some l.name.kind
  | "log_level" => some (Text.Value.kind (.text l.level.name))
  | "use_colors" | "show_timestamps" => some (Text.Value.kind (.flag l.colors))
  | "start_time" => some (Text.Value.kind (.float l.start))
  | "output" => some (streamKind l.stream)
  | "stream" => some (if l.stream = .standard then Text.Value.none.kind else streamKind l.stream)
  | "steps" => if runs then some (Text.Value.kind (.whole r.steps)) else none
  | "last_log_time" => if runs then some (Text.Value.kind (.float r.time)) else none
  | _ => none

def shownLevel (v : Text.Value) : Except Refusal String :=
  match v, Text.formatProblem? v "s" with
  | _, some p => .error (.template p)
  | v, none => .ok v.shown

/-- Carries out a request with the values of its parameters. -/
def perform (r : RunLog) (now : Float) (name : String) (values : List Text.Value) : Response :=
  let l := r.logger
  match name, values with
  | "log", [level, message] => r.answer (levelText level) fun level => r.write now level message
  | "is_enabled_for", [level] =>
    r.answer (levelText level) fun level => (.ok (.flag (l.isEnabledFor level)), r, [])
  | "set_level", [level] =>
    r.answer (levelText level >>= l.setLevel) fun logger => { r with logger }.wrote []
  | "_format_message", [level, message] =>
    r.answer (shownLevel level) fun level =>
      (.ok (.text (l.line now level message.shown)), r, [])
  | "set_colors", [colors] => { r with logger := l.setColors colors.truth }.wrote []
  | "log_run_start", [config] => r.startOf now config
  | "log_status", [steps, pc, interval] => r.statusOf now steps pc interval
  | "log_run_end", [steps] => r.wrote (r.endLines now steps.shown)
  | _, [message] => r.write now name message
  | _, _ => r.wrote []

/-- Answers a request by name. What a logger remembers does nothing on its own. -/
def request (r : RunLog) (runs : Bool) (now : Float) (name : String) (g : Given) : Response :=
  match r.memoryKind? runs name with
  | some kind => (.error (.value (.noCall kind)), r, [])
  | none => r.answer (signatureOf runs name >>= (·.values g)) (r.perform now name)

end RunLog

end Chip8
