-- Settings of a session. A setting is given by a value, left open, or given
-- by a formula that other settings have to be known for.
import Chip8.Refusal
import Chip8.Session.Formula.Simple
import Chip8.Session.Formula.Source
import Chip8.Text.Numeral
namespace Chip8

/-! ## Formulas -/

/-- A formula: its text, and its parts unless it cannot be read. -/
structure Formula where
  text : String
  parts : Except String (List Formula.Part)

namespace Formula

/-- A text as a formula, if it has a dollar sign with a brace. One that is not
simple has to be readable. -/
def ofText? (s : String) : Except String (Option Formula) :=
  if (s.splitOn openingSigns).length = 1 then .ok none
  else match (partsOf s).mapError Stop.message, isSimple s with
    | .error words, false => .error words
    | parts, _ => .ok (some ⟨s, parts⟩)

end Formula

/-! ## Types of settings -/

/-- Types of values that settings have. -/
class Settable (α : Type) where
  /-- The value as one of the type. -/
  ofValue : Text.Value → Except Misfit α
  toValue : α → Text.Value

namespace Settable

/-- A whole number, which may be given as a text. -/
instance : Settable Int where
  ofValue
    | .none => .error (.absent "int")
    | .whole n => .ok n
    | v =>
      match v.text?.bind Text.whole? with
      | some n => .ok n
      | none => .error (.noNumber v.shown v.kind "Integer")
  toValue := .whole

/-- A number, which may be given as a text. -/
instance : Settable Float where
  ofValue
    | .none => .error (.absent "float")
    | .float f => .ok f
    | .whole n => (Text.floatOfWhole n).mapError fun _ => .tooLarge
    | v =>
      match v.text?.bind Text.decimal? with
      | some f => .ok f
      | none => .error (.noNumber v.shown v.kind "Float")
  toValue := .float

/-- A text. Numbers and flags are taken by their text. -/
instance : Settable String where
  ofValue
    | .none => .error (.absent "str")
    | .list vs => .error (.noText (Text.Value.list vs).shown "list")
    | .record fields => .error (.noText (Text.Value.record fields).shown "dict")
    | .table entries => .error (.noText (Text.Value.table entries).shown "dict")
    | v => .ok v.shown
  toValue := .text

/-- A value that may be missing. -/
instance {α : Type} [Settable α] : Settable (Option α) where
  ofValue
    | .none => .ok none
    | v => (ofValue v).map some
  toValue
    | none => .none
    | some a => toValue a

end Settable

inductive Setting (α : Type) where
  | given (a : α)
  /-- The setting has to be given, and was not. -/
  | missing
  | formula (f : Formula)

namespace Setting

variable {α : Type} [Settable α]

def ofValue (v : Text.Value) : Except SettingProblem (Setting α) :=
  let plain : Except SettingProblem (Setting α) := ((Settable.ofValue v).map given).mapError .misfit
  match v with
  | .text s =>
    if s = Formula.missingText then .ok .missing
    else match Formula.ofText? s with
      | .error words => .error (.unreadable s words)
      | .ok (some f) => .ok (.formula f)
      | .ok none => plain
  | _ => plain

/-- A setting as the log shows it; formulas stand for themselves. -/
def shown : Setting α → Text.Value
  | given a => Settable.toValue a
  | missing => .text Formula.missingText
  | formula f => .text f.text

end Setting

/-- A setting by its name, whatever the type of its value. -/
structure Entry where
  name : String
  setting : Setting Text.Value
  /-- As the log shows it. -/
  shown : Text.Value
  /-- Makes the value of a formula one of the type of the setting. -/
  convert : Text.Value → Except Misfit Text.Value

namespace Entry

open Formula

def of {α : Type} [Settable α] (name : String) (s : Setting α) : Entry :=
  { name
    setting := match s with
      | .given a => .given (Settable.toValue a)
      | .missing => .missing
      | .formula f => .formula f
    shown := s.shown
    convert := fun v => (Settable.ofValue (α := α) v).map Settable.toValue }

/-- The value of a formula as one of the type of the setting. -/
def accept (e : Entry) (f : Formula) (a : Answer) : Except Trouble Answer :=
  match e.convert a.value with
  | .ok v => .ok ⟨v, false⟩
  | .error .tooLarge => .error (.problem .tooLarge)
  | .error m => .error (.misfit e.name f.text a (m.withKind a.kind))

/-- A trouble of one formula as that of another one that needs its value. -/
def passedOn : Trouble → Trouble
  | .problem p => .problem p.passedOn
  | t => t

/-- What is found at a path. `value` gives the values of entries, and `seen`
holds those that led here. -/
def find (entries : List Entry) (seen : List String)
    (value : List String → Entry → Except Trouble Answer) (strict : Bool) (path : String) :
    Except Trouble Found :=
  if path = "" then .ok .all
  else match keysOf path with
    | [] => mishap .noKeys
    | name :: further =>
      match entries.find? (·.name = name), further with
      | none, _ => .ok .nothing
      | some e, [] =>
        match e.setting with
        | .missing => .ok (.missing name)
        | _ =>
          if seen.contains name then .error (.problem .circular)
          else (value (name :: seen) e).map .value |>.mapError passedOn
      | some e, child :: _ =>
        match e.setting, strict with
        | .missing, true => .ok (.missing name)
        | .missing, false => .ok (.closed path name child)
        | _, _ => do
          let _ ← (value seen e).mapError passedOn
          return .closed path name child

mutual
/-- The value of an entry. `seen` holds the names of the entries whose
formulas led to it. -/
def value (entries : List Entry) : Nat → List String → Entry → Except Trouble Answer
  | 0, _, _ => mishap .endless
  | fuel + 1, seen, e =>
    match e.setting with
    | .given v => .ok ⟨v, false⟩
    | .missing => .ok ⟨.text Formula.missingText, false⟩
    | .formula f => do
      let parts ← f.parts.mapError fun words => .problem (.unreadable words)
      e.accept f (← partsValue (scope entries fuel seen e) true parts)

/-- What the terms of an entry's formula take their values from. Sources start
anew, so that only `fuel` ends a circle of them. -/
def scope (entries : List Entry) : Nat → List String → Entry → Scope
  | 0, _, _ => ⟨fun _ => mishap .endless, fun _ _ => mishap .endless⟩
  | fuel + 1, seen, e =>
    let settings := entries.map fun e => (e.name, e.shown)
    let found := fun seen => find entries seen (value entries fuel)
    let element := fun (element : Element) => element.value (scope entries fuel [] e)
    { setting := (Surroundings.mk e.name settings (found seen) element).setting
      source := (Surroundings.mk e.name settings (found []) element).source }
end

/-- Enough for formulas that need each other's values: a source may start each
of them anew. -/
def depth : Nat := 100

/-- The value of an entry that is asked for. A problem that is met in other
entries on the way is told of this one. -/
def answer (entries : List Entry) (e : Entry) : Except Refusal Text.Value :=
  match e.setting with
  | .given v => .ok v
  | .missing => .error (.setting e.name .missing)
  | .formula _ =>
    match value entries depth [] e with
    | .ok a => .ok a.value
    | .error (.problem p) => .error (.setting e.name (.formula p))
    | .error (.misfit name text a m) =>
      .error (.setting name (.formulaMisfit text a.value.shown a.kind m))

end Entry

end Chip8
