-- The command line: plays a session with the settings of its words. The keys
-- of a session are read from standard input before it begins, one byte for
-- each key code.
import Chip8.Picture.File
import Chip8.Session.Config
import Chip8.Session.Play
namespace Chip8

/-- The bytes of a file, if it can be read. -/
def readBytes? (path : String) : IO (Option (List UInt8)) := do
  try
    let bytes ← IO.FS.readBinFile path
    return some bytes.toList
  catch _ => return none

/-- The key codes that standard input holds. -/
def readKeys (frontend : String) : IO (List Int) := do
  if frontend = "headless" then return []
  let bytes ← (← IO.getStdin).readToEnd
  return bytes.toUTF8.toList.map fun b => (b.toNat : Int)

/-- Whether a folder has a name. -/
def isFolder? (path : String) : IO Bool := do
  try (← IO.FS.realPath path).isDir
  catch _ => return false

/-- The disk with what is known about a path: the folders on the way and the
file at its end. -/
def learn (d : Disk) (path : String) : IO Disk := do
  let p := (Path.ofText path).tidy
  let folder := { p with names := p.names.dropLast }
  let places := (List.range p.names.length).map fun n =>
    (p.names.take n).foldl Disk.enter (Disk.start p)
  let d := if ← isFolder? (folder.text ".") then { d with folders := places ++ d.folders } else d
  match ← readBytes? path with
  | some bytes => return d.put (p.names.foldl Disk.enter (Disk.start p)) bytes
  | none => return d

/-- The files that a session with a configuration names. -/
def readDisk (c : Config) : IO Disk := do
  let log := (c.frontendName >>= Frontend.ofName >>= c.logPath).toOption.join
  let paths := c.romFile.toOption.toList ++ log.toList ++ c.screenshotFile.toOption.join.toList
  paths.foldlM learn Disk.empty

/-- The outside world of a session with a configuration. -/
def readWorld (c : Config) : IO World := do
  let keys ← readKeys (c.frontendName.toOption.getD "headless")
  return {
    folder := "."
    disk := ← readDisk c
    terminal := .list [.whole Session.neededRows, .whole Session.neededColumns]
    typed := keys.filterMap Terminal.event?
    windowEvents := keys.map fun code => [.keyDown code]
    limit := 10000000 }

/-- Writes the picture of a session, if its file is a bitmap. -/
def writePicture (file : String) (image : Image) : IO Unit := do
  if Text.small (Path.ending file) = ".bmp" then
    IO.FS.writeBinFile file (Picture.bitmap image).toByteArray
  else IO.eprintln ("only .bmp pictures are written: " ++ file)

/-- Shows what a session left behind. The answer is the exit code. -/
def showReport (report : Report) : IO UInt32 := do
  let text := String.join (report.lines.map fun (_, line) => line ++ "\n")
  match report.logFile with
  | some file =>
    let log ← IO.FS.Handle.mk file .append
    log.putStr text
  | none => IO.print text
  if let some c := report.console then
    match c.devices.screen with
    | .panel p => IO.println (p.grid.text "██" "  ")
    | .canvas c => IO.println (c.grid.text "██" "  ")
    | _ => pure ()
  if let some (file, image) := report.picture then writePicture file image
  match report.outcome with
  | .ok _ => return 0
  | .error (.refusal r) => IO.eprintln r.message; return 1
  | .error (.fault f) => IO.eprintln f.message; return 1
  | .error .unfinished => IO.eprintln "the program did not end"; return 1

end Chip8

/-- Plays a session. -/
def main (args : List String) : IO UInt32 := do
  match Chip8.Config.ofArguments args with
  | .error r => IO.eprintln r.message; return 2
  | .ok c => Chip8.showReport (Chip8.Session.run (← Chip8.readWorld c) c)
