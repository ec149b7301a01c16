-- A desk under observation: after each piece of work, the bench tells what
-- has changed since the last look.
import Chip8.File.Disk
import Chip8.Request.Console
import Chip8.Screen.Any
import Chip8.Session.Desk
import Chip8.Text.Quoted
namespace Chip8

/-! ## Changes -/

/-- Places where two lists differ, with what the second one holds there, as
runs of neighbours. The first list is as long as the second. `place` is where
they begin, and `run` is the run so far, backwards. -/
def changedRuns {α : Type} [DecidableEq α] (place : Nat) (run : List α) :
    List α → List α → List (Nat × List α)
  | a :: old, b :: new =>
    if a ≠ b then changedRuns (place + 1) (b :: run) old new
    else if run.isEmpty then changedRuns (place + 1) [] old new
    else (place - run.length, run.reverse) :: changedRuns (place + 1) [] old new
  | _, _ => if run.isEmpty then [] else [(place - run.length, run.reverse)]

namespace Machine

/-- Runs of bytes of memory that have changed, with their addresses. -/
def changedMemory (old new : Machine) : List (Nat × List UInt8) :=
  changedRuns 0 [] old.memory.toList new.memory.toList

/-- Cells of the call stack that have changed, with their places. -/
def changedCells (old new : Machine) : List (Nat × UInt16) :=
  (changedRuns 0 [] old.stack.cells.toList new.stack.cells.toList).flatMap fun (place, run) =>
    run.zipIdx place |>.map fun (cell, k) => (k, cell)

end Machine

namespace AnyScreen

/-- Pixels by column and row. -/
abbrev Pixels := Std.HashMap (Int × Int) Int

def litPixels (g : Grid) : Pixels :=
  (List.range g.height).foldl (fun m (y : Nat) =>
    (List.range g.width).foldl (fun m (x : Nat) =>
      if g.lit x y then m.insert ((x : Int), (y : Int)) 1 else m) m) {}

/-- The pixels that a screen keeps. -/
def pixels : AnyScreen → Pixels
  | sparse s => s.pixels
  | grid g | hidden g _ => litPixels g
  | panel p => litPixels p.grid
  | canvas c => litPixels c.grid

/-- Whether a pixel stands no later than another: by column, then by row. -/
def noLater (a b : (Int × Int) × Int) : Bool :=
  a.1.1 < b.1.1 || (a.1.1 == b.1.1 && a.1.2 ≤ b.1.2)

/-- Pixels in the order of columns, then of rows. -/
def sorted (pixels : List ((Int × Int) × Int)) : List ((Int × Int) × Int) :=
  pixels.mergeSort noLater

/-- The pixels whose value has changed, with the new value. A pixel that is
not kept is out. -/
def changes (old new : Pixels) : List ((Int × Int) × Int) :=
  let changed := new.toList.filter fun (p, v) => old.getD p 0 != v
  let gone := old.toList.filter fun (p, v) => !new.contains p && v != 0
  sorted (changed ++ gone.map fun (p, _) => (p, (0 : Int)))

/-- The calls made to the window of a text screen, the latest in front. -/
def windowCalls : AnyScreen → List WindowCall
  | panel p => p.calls
  | _ => []

end AnyScreen

/-! ## Looks -/

/-- A desk with the files around it, and what was seen last. -/
structure Bench where
  desk : Desk
  disk : Disk
  seen : Machine
  seenPixels : AnyScreen.Pixels
  /-- How many calls to a text window were seen. -/
  seenCalls : Nat

/-- What a look shows. -/
structure Sight where
  machine : Machine
  /-- Runs of bytes of memory that have changed. -/
  memory : List (Nat × List UInt8)
  /-- Cells of the call stack that have changed. -/
  cells : List (Nat × UInt16)
  pixels : List ((Int × Int) × Int)
  /-- New calls to a text window. -/
  calls : List WindowCall
  /-- New lines of the log. -/
  lines : List String

/-- Carries out a number of instructions and shows the screen at the end, unless
it cannot be shown. -/
def AnyConsole.runBatchOf (c : AnyConsole) (steps : Text.Value) :
    Except Refusal Nat × AnyConsole :=
  let (answer, c) := Console.runBatchOf c steps
  match answer, c.devices.screen.problem? with
  | .ok _, some r => (.error r, c)
  | answer, _ => (answer, c)

namespace Bench

/-- A bench with a new desk. Nothing was drawn yet. -/
def new (desk : Desk) : Bench :=
  { desk, disk := .empty, seen := desk.console.machine, seenPixels := {}, seenCalls := 0 }

/-- Looks at the desk. -/
def look (b : Bench) : Sight × Bench :=
  let desk := b.desk.flush b.desk.now
  let machine := desk.console.machine
  let pixels := desk.console.devices.screen.pixels
  let calls := desk.console.devices.screen.windowCalls
  ({ machine
     memory := b.seen.changedMemory machine
     cells := b.seen.changedCells machine
     pixels := AnyScreen.changes b.seenPixels pixels
     calls := (calls.take (calls.length - b.seenCalls)).reverse
     lines := desk.lines.reverse.flatMap fun (_, line) => Text.lines (line ++ "\n") },
   { b with desk := { desk with lines := [] }, seen := machine, seenPixels := pixels
            seenCalls := calls.length })

/-- The bench with its console changed. -/
def mapConsole (b : Bench) (f : AnyConsole → AnyConsole) : Bench :=
  { b with desk := { b.desk with console := f b.desk.console } }

/-- The bench with its machine changed. -/
def mapMachine (b : Bench) (f : Machine → Machine) : Bench :=
  b.mapConsole fun c => { c with machine := f c.machine }

/-- The bench after something was done with its console. -/
def act {α : Type} (b : Bench) (f : AnyConsole → α × AnyConsole) : α × Bench :=
  let (answer, desk) := b.desk.act b.desk.now f
  (answer, { b with desk })

end Bench

end Chip8
