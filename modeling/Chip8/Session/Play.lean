-- A session: a program is read and played in a frontend, and a log tells
-- about it. The outside world is given as data: the files that exist, the
-- size of the terminal and the keys that arrive. The log clock stands still.
import Chip8.File.Disk
import Chip8.Keypad.Terminal
import Chip8.Picture.File
import Chip8.Request.Values
import Chip8.Session.Config
import Chip8.Session.Desk
import Chip8.Text.Quoted
namespace Chip8

/-- The outside world of a session. -/
structure World where
  /-- The folder that relative paths start from. -/
  folder : String
  /-- The files that exist. -/
  disk : Disk
  /-- The rows and the columns of the terminal, as it tells them. -/
  terminal : Text.Value
  /-- What is typed at the terminal, each key when a program waits for it. -/
  typed : List (KeyEvent Text.Value)
  /-- The window events of each reading. -/
  windowEvents : List (List WindowEvent)
  /-- How many turns a run may take. -/
  limit : Nat
  platform : Platform := .usual

/-- What a session leaves behind. -/
structure Report where
  outcome : Except SessionError Nat
  /-- The console, if one was built. -/
  console : Option AnyConsole
  /-- The lines of the log, from the first one on. -/
  lines : List LogLine
  /-- The file of the log, if one was opened. -/
  logFile : Option String
  /-- The files afterwards, pictures left out. -/
  disk : Disk
  /-- The picture that was saved, with its file. -/
  picture : Option (String × Image)

namespace Session

/-- The time that the log clock shows. -/
def logTime : Float := 0

/-! ## Frontends -/

/-- The rows that a terminal needs: the picture, its border and a row for
the keys. -/
def neededRows : Int := screenHeight + 3

/-- The columns that a terminal needs. -/
def neededColumns : Int := 2 * screenWidth + 2

/-- The place of a text window: rows, columns, top and left. -/
abbrev Place := Int × Int × Int × Int

/-- Whether a terminal of so many rows and columns is too small. The columns
are of no interest where the rows are too few. -/
def tooSmall (rows columns : Text.Value) : Except Text.ValueProblem Bool := do
  if ← rows.isBelow (.whole neededRows) then return true
  else columns.isBelow (.whole neededColumns)

/-- The places of the picture and of the keys in a terminal of a size. -/
def windows (size : Text.Value) : Except Refusal (Place × Place) := do
  let (rows, columns) ← ofValue size.toPair
  if ← ofValue (tooSmall rows columns) then
    .error (.terminalTooSmall columns.shown rows.shown neededColumns neededRows)
  else
    return ((panelRows, panelColumns, 0, 0), (1, 1, panelRows, 0))

/-- Builds a console with its program. -/
def build (keypad : AnyKeypad Text.Value Float) (screen : AnyScreen) (seed : Int)
    (program : List UInt8) : Except Refusal AnyConsole :=
  (Splitting.ofSeed seed).map fun random =>
    (Console.new ⟨keypad, screen, .splitting random⟩).loadBytes program

/-- The number of keys that the buffer of a frontend holds. -/
def bufferCapacity : Nat := 16

/-- How often a wait for a key looks at the events of a window, in seconds. -/
def windowPoll : Float := 0.02

/-- How often a wait for a key looks for the end of the input, in seconds. -/
def terminalPoll : Float := 0.1

/-- An untouched keyboard. -/
def keyboard (timeout : Float) : Keyboard Text.Value Float :=
  .idle 0 ⟨timeout, some bufferCapacity, []⟩

/-- The keys that arrive at a terminal, one after the other, up to the first
that asks to quit. -/
def arrivals : Nat → List (KeyEvent Text.Value) →
    List (Float × KeyEvent Text.Value)
  | _, [] => []
  | n, .close :: _ => [(n.toFloat, .close)]
  | n, event :: rest => (n.toFloat, event) :: arrivals (n + 1) rest

def windowKeypad (w : World) (timeout : Float) : AnyKeypad Text.Value Float :=
  .scripted { keyboard := keyboard timeout, poll := some windowPoll } w.windowEvents

def terminalKeypad (w : World) (timeout : Float) : AnyKeypad Text.Value Float :=
  .buffered
    { keyboard :=
        { keyboard timeout with pending := arrivals 1 (w.typed) }
      closable := true
      poll := some terminalPoll }

/-- How a run of a frontend goes: its sleeps are too short for a key, so the
clock of the keyboard stands still in them. -/
def host : Host Desk Float where
  now d := (d.now, d)
  shouldStop d :=
    let c := d.console
    let (stop, keypad) := c.devices.keypad.shouldStop
    (stop, { d with console := { c with devices := { c.devices with keypad } } })
  step d := d.act logTime Console.step
  refresh d := { d with console := d.console.refresh }
  onFrame := id
  status _ d := d
  sleep _ d := d
  pc d := d.console.machine.pc
  tell n d := { d with console := d.console.tell [n] }.flush logTime

/-- The rates of the frontends: 120 steps and 60 pictures in a second. -/
def rates : Rates Float := ⟨1 / 120, 1 / 60⟩

/-- Plays until the keypad asks to stop. -/
def playPaced (limit : Nat) (d : Desk) : Except SessionError Nat × Desk :=
  host.play d.problem? rates limit d

/-! ## The whole session -/

/-- What a session has done so far. -/
structure Course where
  registry : Registry
  /-- The lines of the log, the latest in front. -/
  lines : List LogLine
  /-- The file that the log is written to. -/
  logPlace : Option FilePlace
  console : Option AnyConsole
  picture : Option (String × Image)

/-- The session with more lines of a run log. -/
def Course.writeRun (s : Course) (r : RunLog) (lines : List String) : Course :=
  { s with lines := (lines.map fun line => (r.logger.stream, line)).reverse ++ s.lines }

/-- Builds a console and lets it play. -/
def Course.play (s : Course) (built : Except Refusal AnyConsole)
    (run : Desk → Except SessionError Nat × Desk) : Except SessionError Nat × Course :=
  match built with
  | .error r => (.error (.refusal r), s)
  | .ok c =>
    let d : Desk := { console := c, registry := s.registry, lines := s.lines }
    let (answer, d) := run (d.flush logTime)
    (answer, { s with lines := d.lines, console := some d.console })

/-- The bytes of the log so far. -/
def Course.logBytes (s : Course) : List UInt8 :=
  (String.join (s.lines.reverse.map fun (_, line) => line ++ "\n")).toUTF8.toList

/-- The files while the session goes on. The log stands behind what its file
held before. -/
def Course.disk (s : Course) (w : World) : Disk :=
  match s.logPlace with
  | none => w.disk
  | some place => w.disk.put place ((w.disk.bytesAt? place).getD [] ++ s.logBytes)

/-- Saves a picture of the screen, if one is asked for. -/
def Course.savePicture (s : Course) (w : World) (c : Config) (r : RunLog) :
    Except Refusal Unit × Course :=
  match c.screenshotFile, s.console.bind (·.devices.screen.grid?) with
  | .error e, _ => (.error e, s)
  | .ok none, _ | _, none => (.ok (), s)
  | .ok (some file), some grid =>
    let image : Except Refusal Image := do
      let scale ← c.scaleValue
      let image ← Image.inRoom w.platform grid scale (← Scheme.ofName (← c.schemeName))
      let _ ← Picture.save image ((Path.ofText file).tidy.text w.folder)
        ((s.disk w).writableFrom w.folder file)
      return image
    match image with
    | .error e => (.error e, s)
    | .ok image =>
      (.ok (), { s with picture := some (file, image) }.writeRun r
        (r.info logTime ("Saved screenshot to " ++ file)))

/-- Carries out a number of instructions, tells the last screen and saves a
picture of it. -/
def Course.playHeadless (s : Course) (w : World) (c : Config) (r : RunLog)
    (program : List UInt8) : Except SessionError Nat × Course :=
  let built := do build (.silent (keyboard 0)) (.grid .standard) (← c.seedValue) program
  let (answer, s) := s.play built fun d =>
    match c.stepCount with
    | .error e => (.error (.refusal e), d)
    | .ok steps =>
      let (answer, d) := d.act logTime (Console.runBatch steps)
      (answer.mapError .fault, d)
  match answer with
  | .error e => (.error e, s)
  | .ok steps =>
    let text := match s.console.bind (·.devices.screen.grid?) with
      | some grid => grid.text "█" " "
      | none => ""
    let shown := (r.logger.log logTime Level.debug.name ("Final screen:\n" ++ text)).toList
    match (s.writeRun r shown).savePicture w c r with
    | (.error e, s) => (.error (.refusal e), s)
    | (.ok (), s) => (.ok steps, s)

/-- The console of a window. All its settings are known before it opens. -/
def windowConsole (w : World) (c : Config) (program : List UInt8) : Except Refusal AnyConsole := do
  let scale ← c.scaleValue
  let name ← c.schemeName
  let timeout ← c.timeoutValue
  let seed ← c.seedValue
  let screen ← AnyScreen.ofScale w.platform scale name
  build (windowKeypad w timeout) screen seed program

def terminalConsole (w : World) (c : Config) (program : List UInt8) :
    Except Refusal AnyConsole := do
  let timeout ← c.timeoutValue
  let seed ← c.seedValue
  let _ ← windows w.terminal
  build (terminalKeypad w timeout) (.panel .blank) seed program

/-- Plays a program in a frontend. -/
def Course.playIn (s : Course) (w : World) (c : Config) (r : RunLog) (frontend : Frontend)
    (program : List UInt8) : Except SessionError Nat × Course :=
  match frontend with
  | .headless => s.playHeadless w c r program
  | .window => s.play (windowConsole w c program) (playPaced w.limit)
  | .terminal => s.play (terminalConsole w c program) (playPaced w.limit)

/-- Reads the program and plays it, with the configuration in front of its
log and the number of steps behind it. -/
def Course.playLogged (s : Course) (w : World) (c : Config) (frontend : Frontend) :
    Except SessionError Nat × Course :=
  match RunLog.new s.registry.settings RunLog.defaultName ⟨none, none, none, none⟩ logTime with
  | .error e => (.error (.refusal e), s)
  | .ok r =>
    let s := s.writeRun r (r.startLines logTime c.fields)
    match c.romFile >>= (s.disk w).readFrom w.folder with
    | .error e => (.error (.refusal e), s)
    | .ok program =>
      match s.playIn w c r frontend program with
      | (.error e, s) => (.error e, s)
      | (.ok steps, s) => (.ok steps, s.writeRun r (r.endLines logTime (toString steps)))

/-- Plays a session whose log goes to a file, or to the standard stream. -/
def runIn (w : World) (c : Config) (frontend : Frontend) (logFile : Option (String × FilePlace)) :
    Report :=
  let stream := logFile.map fun (file, _) => Stream.mk file false
  let s : Course :=
    { registry := .initial logTime, lines := [], logPlace := logFile.map (·.2), console := none
      picture := none }
  let (outcome, s) : Except SessionError Nat × Course := match c.levelName with
    | .error e => (.error (.refusal e), s)
    | .ok level =>
      match s.registry.configure ⟨some level, stream, none, none⟩ with
      | (.error e, registry) => (.error (.refusal e), { s with registry })
      | (.ok (), registry) => { s with registry }.playLogged w c frontend
  { outcome
    console := s.console
    lines := s.lines.reverse
    logFile := logFile.map (·.1)
    disk := s.disk w
    picture := s.picture }

/-- The frontend of a session, and where its log is written. -/
def opening (w : World) (c : Config) :
    Except Refusal (Frontend × Option (String × FilePlace)) := do
  let frontend ← Frontend.ofName (← c.frontendName)
  match ← c.logPath frontend with
  | none => return (frontend, none)
  | some file => return (frontend, some (file, ← w.disk.writableFrom w.folder file))

/-- Plays a session, if its frontend exists and its log can be written. -/
def run (w : World) (c : Config) : Report :=
  match opening w c with
  | .error r => ⟨.error (.refusal r), none, [], none, w.disk, none⟩
  | .ok (frontend, logFile) => runIn w c frontend logFile

/-- Plays a session with settings by name. -/
def start (w : World) (given : List (String × Text.Value)) : Report :=
  match Config.ofValues given with
  | .error r => ⟨.error (.refusal r), none, [], none, w.disk, none⟩
  | .ok c => run w c

end Session

/-- The lines that a session printed, if its log went to no file. -/
def Report.printed (r : Report) : List String :=
  if r.logFile.isSome then []
  else r.lines.flatMap fun (_, line) => Text.lines (line ++ "\n")

end Chip8
