-- The line that shows a progress. Nothing is kept of it: it only matters
-- whether the values that it is made of can be shown.
import Chip8.Request.Values
import Chip8.Text.Conversion
import Chip8.Text.HexBytes
import Chip8.Text.Template
namespace Chip8

open Text

/-- What the line of a progress is made of. -/
structure Meter where
  count : Value
  /-- The last count, unless it is not known. -/
  total : Value
  /-- What stands in front. -/
  description : Value
  unit : String
  /-- The options that change the look of the line. -/
  options : List (String × Value)

namespace Meter

def option (m : Meter) (name : String) : Value := (m.options.lookup name).getD .none

/-! ## Numbers -/

/-- A product that takes the place of its first factor. Of a text or a list
that is repeated only the kind matters, and whether it is empty. -/
def product (v w : Value) : Except ValueProblem Value :=
  match v, w, v.whole?, w.whole? with
  | .text s, _, _, some n | _, .text s, some n, _ => .ok (.text (if 0 < n then s else ""))
  | .list vs, _, _, some n | _, .list vs, some n, _ => .ok (.list (if 0 < n then vs else []))
  | .text _, w, _, _ | .list _, w, _, _ => .error (.noRepeat w.kind)
  | v, .text _, _, _ | v, .list _, _, _ =>
    if v.number?.isSome then .error (.noRepeat v.kind) else .error (.noOperation "*=" v.kind w.kind)
  | v, w, _, _ => Value.reckon "*=" Number.multiply v w

/-- The last count, if it is not reached yet. -/
def knownTotal (m : Meter) : Except ValueProblem Value := do
  if !m.total.truth then return m.total
  let limit ← m.total.plus (.float 0.5)
  return if ← m.count.isAtLeast limit then .none else m.total

/-- Whether counts are shown by a number of thousands. -/
def inThousands (m : Meter) : Bool := (m.option "unit_scale").same (.whole 1)

/-- Counts in units of another size. -/
def scaled (m : Meter) (total : Value) : Except ValueProblem (Value × Value) := do
  let scale := m.option "unit_scale"
  if !scale.truth || m.inThousands then return (m.count, total)
  let total ← if total.truth then product total scale else pure total
  return (← product m.count scale, total)

/-- The size from which on a number is divided to be shown. -/
def thousand : Value := .float 999.5

/-- Accepts a number that can be shown in thousands. -/
def checkThousands (m : Meter) (v : Value) : Except ValueProblem Unit := do
  match v.number? with
  | none => .error (.noMagnitude v.kind)
  | some n =>
    let divisor := ((m.options.lookup "unit_divisor").getD (.whole 1000))
    let size ← if n.less (.whole 0) then Number.subtract (.whole 0) n else pure n
    if ← size.value.isAtLeast thousand then
      match divisor.number?, v with
      | none, _ => .error (.noOperation "/=" v.kind divisor.kind)
      | some d, .float _ => if d.equal (.whole 0) then .error (.byZero "float division")
      | some (.float d), _ => if d == 0 then .error (.byZero "float division")
      | some (.whole d), _ => if d = 0 then .error (.byZero "division")

/-- Accepts a share of a total that is not zero. -/
def checkShare (count total : Value) : Except ValueProblem Unit := do
  match count.number?, total.number? with
  | some (.whole n), some (.whole t) =>
    if floatLimit ≤ n.natAbs / t.natAbs then .error .quotientTooLarge
  | some a, some b => discard a.double; discard b.double
  | _, _ => .error (.noOperation "/" count.kind total.kind)

/-- Accepts what stands in front, which has to be a text. -/
def checkDescription (v : Value) : Except ValueProblem Unit :=
  match v.truth, v with
  | false, _ | _, .text _ => .ok ()
  | _, .list _ => .error (.noJoin "list" "str")
  | _, .record _ | _, .table _ => .error (.noKey "slice")
  | _, v => .error (.noSlice v.kind)

/-! ## Templates -/

/-- What a template can show. Nothing is known yet of the time that it takes. -/
def known (m : Meter) (count total : Value) : List (String × Filling) :=
  let text (s : String) : Filling := .value (.text s)
  let description := if m.description.truth then m.description else .text ""
  [("bar", .thing "FormatReplace"), ("n", .value count), ("n_fmt", text count.shown),
    ("total", .value total), ("total_fmt", text (if total.truth then total.shown else "?")),
    ("elapsed", text "00:00"), ("elapsed_s", .value (.whole 0)),
    ("ncols", .value (m.option "ncols")), ("desc", .value description), ("unit", text m.unit),
    ("rate", .value .none), ("rate_fmt", text ("?" ++ m.unit ++ "/s")),
    ("rate_noinv", .value .none), ("rate_noinv_fmt", text ("?" ++ m.unit ++ "/s")),
    ("rate_inv", .value .none), ("rate_inv_fmt", text ("?s/" ++ m.unit)),
    ("postfix", text (m.option "postfix").shown),
    ("unit_divisor", .value ((m.options.lookup "unit_divisor").getD (.whole 1000))),
    ("colour", .value (m.option "colour")), ("remaining", text "?"),
    ("remaining_s", .value (.whole 0)), ("l_bar", text (description.shown ++ ": ")),
    ("r_bar", text "| "), ("eta", .thing "datetime.datetime"), ("percentage", .value (.float 0)),
    ("nrows", .value (m.option "nrows"))]

/-- The formats in which a template shows the bar, if all its fields can be
filled. -/
def barFormats (known : List (String × Filling)) (template : String) :
    Except TemplateProblem (List String) := do
  let (fields, problem) := templateFields template.length template.toList
  let shown ← fields.filterMapM fun f => do
    match ← f.check known with
    | .thing "FormatReplace" => return some f.format
    | _ => return none
  match problem with
  | some p => .error p
  | none => return shown

/-! ## The bar -/

/-- Accepts a colour. Only one that is written in digits can be wrong. -/
def checkColour (v : Value) : Except ValueProblem Unit :=
  match v with
  | .text s =>
    let cs := s.toList
    if cs.head? ≠ some '#' ∨ cs.length ≠ 7 then .ok ()
    else
      let components := [cs.drop 1, cs.drop 3, cs.drop 5].map fun c => String.ofList (c.take 2)
      match components.find? fun c => (hexNumber? c).isNone with
      | some c => .error (.noNumeral 16 (quoted c))
      | none => .ok ()
  | _ => .ok ()

/-- Accepts the signs that a bar is made of, of which there are at least two. -/
def checkSigns (v : Value) : Except ValueProblem Unit :=
  match v with
  | .flag true => .ok ()
  | .text s => if s.length = 1 then .error (.byZero "integer division or modulo") else .ok ()
  | .list [_] => .error (.byZero "integer division or modulo")
  | .whole _ | .float _ => if v.truth then .error (.noLength v.kind) else .ok ()
  | _ => .ok ()

/-- Accepts a format of the bar: its width, and a letter for its signs. -/
def checkBar (signs : Value) (format : String) : Except ValueProblem Unit := do
  let letter := (format.toList.getLast?.map Char.toLower).filter "aub".toList.contains
  let width := if letter.isSome then String.ofList format.toList.dropLast else format
  if !width.isEmpty then discard (wholeOfText width)
  if letter.isNone then checkSigns signs

/-- Accepts the columns of a line. -/
def checkColumns (v : Value) : Except ValueProblem Unit :=
  match v.truth, v with
  | false, _ => .ok ()
  | _, .float _ => .error (.noRepeat v.kind)
  | _, v => if v.whole?.isSome then .ok () else .error (.noOperation "-" v.kind "int")

/-- Accepts a line that shows a bar in some formats. -/
def checkBars (m : Meter) (signs : Value) (formats : List String) : Except ValueProblem Unit := do
  if formats.isEmpty then return
  checkColumns (m.option "ncols")
  checkColour (m.option "colour")
  formats.forM (checkBar signs)

/-- The template of the line, unless it is left to the rules. -/
def template? (m : Meter) : Option String :=
  let v := m.option "bar_format"
  if v.truth then some v.shown else none

/-- Accepts a progress whose line can be shown. -/
def check (m : Meter) : Except Refusal Unit := do
  let total ← ofValue m.knownTotal
  let (count, total) ← ofValue (m.scaled total)
  if m.inThousands then
    ofValue (m.checkThousands count)
    if total.truth then ofValue (m.checkThousands total)
  ofValue (checkDescription m.description)
  let fill (template : String) := (barFormats (m.known count total) template).mapError .template
  if total.truth then
    ofValue (checkShare count total)
    if (m.option "ncols").same (.whole 0) then return
    let formats ← match m.template? with
      | some template => fill template
      | none => pure [""]
    ofValue (m.checkBars (m.option "ascii") formats)
  else match m.template? with
    | some template => do ofValue (m.checkBars (.flag true) (← fill template))
    | none => return

end Meter

end Chip8
