-- The progress of a run of a known number of steps, which a line can show.
import Chip8.Run.Meter
namespace Chip8

open Text

/-- How far a run has come. -/
structure Progress where
  meter : Meter
  /-- The count when it was shown last. -/
  noted : Value

namespace Progress

/-- The options that the look of a progress has. -/
def optionNames : List String := [
  "iterable", "desc", "total", "leave", "file", "ncols", "mininterval", "maxinterval", "miniters",
  "ascii", "disable", "unit", "unit_scale", "dynamic_ncols", "smoothing", "bar_format", "initial",
  "position", "postfix", "unit_divisor", "write_bytes", "lock_args", "nrows", "colour", "delay",
  "gui"]

/-- The description of a run, unless another one is given. -/
def descriptionOf (total : Value) (given : Value) : Except ValueProblem Value :=
  match given with
  | .none => do return .text ("Emulating (" ++ (← total.asGrouped) ++ " steps)")
  | v => .ok (if v.truth then v else .text "")

/-- Whether the options hide the progress. Where nothing is said, it is hidden
unless it is written to a terminal, and it is not. -/
def isHidden (options : List (String × Value)) : Bool :=
  match options.lookup "disable" with
  | none => false
  | some .none => true
  | some v => v.truth

def optionOr (options : List (String × Value)) (name : String) (otherwise : Value) : Value :=
  (options.lookup name).getD otherwise

/-! ## The line -/

/-- The row of the line, counted from the first one. -/
def rowOf (options : List (String × Value)) : Except ValueProblem Number :=
  match optionOr options "position" .none with
  | .none => .ok (.whole 0)
  | v =>
    match v.number? with
    | some n => if n.less (.whole 0) then Number.subtract (.whole 0) n else .ok n
    | none => .error (.noSign v.kind)

/-- Accepts a file to write the line to. -/
def checkFile (file : Value) : Except ValueProblem Unit :=
  match file with
  | .none => .ok ()
  | v => .error (.lacks v.kind "write")

/-- The number of rows that lines have room in by default. -/
def defaultRows : Value := .whole 20

/-- Shows the line in its row. Lines below the last row are not shown, and the
last row tells that there are more. -/
def display (m : Meter) (row : Number) : Except Refusal Unit := do
  let rows := m.option "nrows"
  let rows := if rows.truth then rows else defaultRows
  let last ← ofValue (rows.minus (.whole 1))
  let file := m.option "file"
  if ← ofValue (row.value.isAtLeast rows) then return
  else
    let isMoved := !row.equal (.whole 0)
    match isMoved, row with
    | true, .float _ => .error (.value (.noRepeat row.value.kind))
    | _, _ =>
      if isMoved then ofValue (checkFile file)
      if !(← ofValue (row.value.isAtLeast last)) then m.check
      ofValue (checkFile file)

/-- Shows the line, unless it is shown otherwise or later. -/
def present (m : Meter) (row : Number) : Except Refusal Unit := do
  if (m.option "gui").truth then return
  if ← ofValue ((optionOr m.options "delay" (.float 0)).isAtMost (.whole 0)) then display m row

/-! ## Counting -/

/-- The total of a run, unless it has no end. -/
def totalOf (total : Value) : Value :=
  match total with
  | .float f => if f == 1 / 0 then .none else total
  | v => v

/-- The progress of a run that begins, with options that may be given wrong. -/
def new (total : Value) (description : Value) (options : List (String × Value)) :
    Except Refusal Progress := do
  let unknown := options.filter fun (name, _) => !optionNames.contains name
  if (options.lookup "n").isSome then .error (.request "build_progress_bar" (.repeated "n"))
  let description ← ofValue (descriptionOf total description)
  if isHidden options then .error .hiddenProgress
  if (options.lookup "nested").isSome then .error .nestedOption
  if !unknown.isEmpty then .error (.unknownOptions (Value.record unknown).nested)
  let row ← ofValue (rowOf options)
  let count := optionOr options "initial" (.whole 0)
  let meter := { count, total := totalOf total, description, unit := "step", options }
  present meter row
  return { meter, noted := count }

/-- A value with more added to it. -/
def increased (v more : Value) : Except ValueProblem Value :=
  match v with
  | .text _ => v.plus more
  | .list vs => do return .list (vs ++ (← more.toElements))
  | v => Value.reckon "+=" Number.add v more

/-- A value that is zero where none is given. -/
def orZero (v : Value) : Value :=
  match v with
  | .none => .whole 0
  | v => v

/-- Whether the line is due after steps: there have to be enough of them, and
enough time between. Hardly any time passes. -/
def isDue (p : Progress) : Except ValueProblem Bool := do
  let steps ← p.meter.count.minus p.noted
  let options := p.meter.options
  if ← steps.isAtLeast (orZero (optionOr options "miniters" (.whole 0))) then
    Value.isAtLeast (.float 0) (orZero (optionOr options "mininterval" (.float 0.1)))
  else return false

/-- The progress after some more steps. Steps back do not count as shown. -/
def update (p : Progress) (steps : Value) : Except Refusal Progress := do
  let back ← ofValue (steps.isBelow (.whole 0))
  let noted ← if back then ofValue (increased p.noted steps) else pure p.noted
  let count ← ofValue (increased p.meter.count steps)
  let p := { meter := { p.meter with count }, noted }
  if ← ofValue p.isDue then present p.meter (← ofValue (rowOf p.meter.options))
  return p

end Progress

end Chip8
