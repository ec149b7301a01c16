-- What a session is asked to do.
import Chip8.Session.Setting
namespace Chip8

/-- Where a program is shown and played. -/
inductive Frontend where
  /-- In a picture window. -/
  | window
  /-- In a text terminal. -/
  | terminal
  /-- Nowhere; a number of instructions is carried out. -/
  | headless
deriving DecidableEq, Repr

def Frontend.ofName (name : String) : Except Refusal Frontend :=
  match name with
  | "pygame" => .ok .window
  | "terminal" => .ok .terminal
  | "headless" => .ok .headless
  | _ => .error (.unknownFrontend name)

/-- The settings of a session. -/
structure Config where
  /-- The file of the program. -/
  rom : Setting String := .missing
  frontend : Setting String := .given "pygame"
  /-- The number of instructions, where nobody plays. -/
  steps : Setting Int := .given 1000
  scale : Setting Int := .given 8
  colorScheme : Setting String := .given "classic"
  /-- How long a key stays fresh, in seconds. -/
  keyTimeout : Setting Float := .given 0.25
  logLevel : Setting String := .given "INFO"
  /-- The file of the log. -/
  logFile : Setting (Option String) := .given none
  seed : Setting Int := .given 0
  /-- The file for a picture of the last screen. -/
  screenshot : Setting (Option String) := .given none

namespace Config

/-- The settings by name. -/
def entries (c : Config) : List Entry := [
  .of "rom" c.rom, .of "frontend" c.frontend, .of "steps" c.steps, .of "scale" c.scale,
  .of "color_scheme" c.colorScheme, .of "key_timeout" c.keyTimeout, .of "log_level" c.logLevel,
  .of "log_file" c.logFile, .of "seed" c.seed, .of "screenshot" c.screenshot]

/-- The settings by name, as the log shows them. -/
def fields (c : Config) : List (String × Text.Value) := c.entries.map fun e => (e.name, e.shown)

/-! ## Reading a configuration -/

/-- Why a value was refused for the setting of a name. -/
def refusalOf (name : String) : SettingProblem → Refusal
  | .misfit .tooLarge => .settingTooLarge
  | p => .setting name p

/-- The setting of a name, unless it keeps the value that it has otherwise. -/
def read {α : Type} [Settable α] (given : List (String × Text.Value)) (name : String)
    (kept : Setting α) : Except Refusal (Setting α) :=
  match given.lookup name with
  | none => .ok kept
  | some v => (Setting.ofValue v).mapError (refusalOf name)

/-- The configuration with some settings given by name. All names are looked
at first, then the values in the order of the settings. -/
def ofValues (given : List (String × Text.Value)) : Except Refusal Config := do
  let c : Config := {}
  match given.find? fun (name, _) => !(c.fields.map (·.1)).contains name with
  | some (name, _) => .error (.unknownSetting name)
  | none =>
    return {
      rom := ← read given "rom" c.rom
      frontend := ← read given "frontend" c.frontend
      steps := ← read given "steps" c.steps
      scale := ← read given "scale" c.scale
      colorScheme := ← read given "color_scheme" c.colorScheme
      keyTimeout := ← read given "key_timeout" c.keyTimeout
      logLevel := ← read given "log_level" c.logLevel
      logFile := ← read given "log_file" c.logFile
      seed := ← read given "seed" c.seed
      screenshot := ← read given "screenshot" c.screenshot }

/-! ## Values -/

/-- The value of a setting of the configuration. -/
def value {α : Type} [Settable α] (c : Config) (name : String) (s : Setting α) :
    Except Refusal α := do
  let v ← Entry.answer c.entries (.of name s)
  (Settable.ofValue v).mapError fun m => refusalOf name (.misfit m)

def romFile (c : Config) : Except Refusal String := c.value "rom" c.rom
def frontendName (c : Config) : Except Refusal String := c.value "frontend" c.frontend
def stepCount (c : Config) : Except Refusal Int := c.value "steps" c.steps
def scaleValue (c : Config) : Except Refusal Int := c.value "scale" c.scale
def schemeName (c : Config) : Except Refusal String := c.value "color_scheme" c.colorScheme
def timeoutValue (c : Config) : Except Refusal Float := c.value "key_timeout" c.keyTimeout
def levelName (c : Config) : Except Refusal String := c.value "log_level" c.logLevel
def seedValue (c : Config) : Except Refusal Int := c.value "seed" c.seed

/-- The file for a picture, if one is asked for. -/
def screenshotFile (c : Config) : Except Refusal (Option String) :=
  (c.value "screenshot" c.screenshot).map (·.filter (· ≠ ""))

/-- The log file of a terminal session, unless another one is chosen. Lines
on the screen would be drawn over the picture. -/
def terminalLog : String := "chip8vm.log"

/-- The file that the log goes to, if it goes to a file. -/
def logPath (c : Config) (frontend : Frontend) : Except Refusal (Option String) :=
  (c.value "log_file" c.logFile).map fun file =>
    match file with
    | some "" => none
    | some file => some file
    | none => if frontend = .terminal then some terminalLog else none

/-! ## Words of a command line -/

/-- A word as a setting: its name and its value. -/
def argument (word : String) : String × Text.Value :=
  let name := String.ofList (word.toList.takeWhile (· ≠ '='))
  let value := String.ofList ((word.toList.dropWhile (· ≠ '=')).drop 1)
  (name, if value = "null" then .none else .text value)

/-- The configuration with the settings of some words. Of two words for one
setting the last one counts. -/
def ofArguments (words : List String) : Except Refusal Config :=
  ofValues (words.reverse.map argument)

end Config

end Chip8
