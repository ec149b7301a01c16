-- The sources of values that formulas may ask: other settings, the variables
-- of the surroundings, of which there are none, and texts that are read again.
-- Settings are found by paths: keys with dots between them, or in brackets. A
-- dot in front means the settings themselves; more dots would lead out of them.
import Chip8.Session.Formula.Grammar
import Chip8.Session.Formula.Value
namespace Chip8.Formula

open Chip8.Text

/-! ## Paths -/

/-- A path from the settings themselves, unless it leads out of them. -/
def rootPath? (path : String) : Option String :=
  match path.toList with
  | '.' :: '.' :: _ => none
  | '.' :: rest => some (String.ofList rest)
  | _ => some path

/-- The key in brackets at the beginning, which ends with its line at the
latest. -/
def bracketed? (cs : List Char) : Option (List Char × List Char) :=
  match cs.span fun c => c ≠ ']' ∧ c ≠ '\n' with
  | (key, ']' :: rest) => some (key, rest)
  | _ => none

/-- Whether a character belongs to a key behind a dot. -/
def isKeyPart (c : Char) : Bool := c ≠ '.' && c ≠ '['

/-- The keys behind the first one. Characters that belong to no key are left
out. The number is one of turns that are enough. -/
def furtherKeys : Nat → List Char → List String
  | 0, _ | _, [] => []
  | turns + 1, c :: rest =>
    if c = '.' then
      let (key, rest) := rest.span isKeyPart
      String.ofList key :: furtherKeys turns rest
    else if c = '[' then
      match bracketed? rest with
      | some (key, rest) => String.ofList key :: furtherKeys turns rest
      | none => furtherKeys turns rest
    else furtherKeys turns rest

def keysOf (path : String) : List String :=
  let (head, rest) := path.toList.span isKeyPart
  let further := furtherKeys rest.length rest
  if head.isEmpty ∧ rest.head? = some '[' then further else String.ofList head :: further

/-! ## What is found -/

/-- What is found at a path. -/
inductive Found where
  | nothing
  /-- All settings together. -/
  | all
  /-- A setting that has to be given and was not. -/
  | missing (name : String)
  /-- The path leads through a setting that is no table. -/
  | closed (path parent child : String)
  | value (a : Answer)

/-- What sources work with. -/
structure Surroundings where
  /-- The name of the setting whose formula asks. -/
  place : String
  /-- All settings by name, as the log shows them. -/
  settings : List (String × Value)
  /-- What is found at a path. A missing setting within the path can count as
  missing, or as one that is no table. -/
  find : (strict : Bool) → String → Except Trouble Found
  /-- The value of an element. -/
  element : Element → Except Trouble Answer

/-- The value of a text that stands for settings that are missing. -/
def missingText : String := "???"

/-- The words that stand for flags, for nothing or for numbers. -/
def singleWords : List String :=
  ["true", "false", "yes", "no", "on", "off", "null", "~", ".inf", ".nan"]

/-- Settings made of a value. -/
def settingsOf (v : Value) : Except Trouble Answer :=
  match v with
  | .none => .ok ⟨.none, false⟩
  | .text s =>
    let word := String.ofList (s.toList.map Char.toLower)
    if s.isEmpty then .ok ⟨.table [], true⟩
    else if singleWords.contains word ∨ (decimal? s).isSome then mishap .single
    else .ok ⟨.table [(.text s, .none)], true⟩
  | .list _ | .record _ | .table _ => .ok ⟨v, true⟩
  | v => mishap (.noContainer v.kind)

namespace Surroundings

variable (w : Surroundings)

/-- All settings together as a value. -/
def all : Answer := ⟨.record w.settings, true⟩

/-- What is found at the path that a value gives. -/
def findAt (strict : Bool) (v : Value) : Except Trouble Found :=
  match v with
  | .text path =>
    match rootPath? path with
    | some path => w.find strict path
    | none => mishap (.outside path)
  | v => mishap (.value (.lacks v.kind "startswith"))

/-- The value of a setting, or a value that stands for it otherwise. -/
def select (key : Answer) (otherwise : Answer) : Except Trouble Answer := do
  match ← w.findAt false key.value with
  | .value a => return a
  | .all => return w.all
  | _ => return otherwise

def variableText (name : Answer) (otherwise : Option Answer) : Except Trouble Answer :=
  match name.value, otherwise with
  | .text name, none => mishap (.noVariable name)
  | .text _, some a =>
    match a.value with
    | .none => .ok ⟨.none, false⟩
    | v => .ok ⟨.text v.shown, false⟩
  | _, _ => mishap (.noVariableName name.kind)

/-- The value that a text spells. -/
def decode (text : Answer) : Except Trouble Answer :=
  match text.value with
  | .none => .ok ⟨.none, false⟩
  | .text s =>
    match Element.ofText s with
    | .ok e => w.element e
    | .error stop => mishap (.unreadable stop.message)
  | v => mishap (.notReadable v.shown text.kind)

/-- The value of a setting that took the place of another one. -/
def successor (key : Answer) (message : Option Answer) : Except Trouble Answer :=
  match key.value, message.map (·.value) with
  | .text path, none | .text path, some (.text _) => do
    match ← w.findAt false (.text path) with
    | .value a => return a
    | .all => return w.all
    | .missing _ => return ⟨.text missingText, false⟩
    | _ => mishap (.noSuccessor w.place path)
  | .text _, some v => mishap (.successorKind "message" v.kind)
  | _, _ => mishap (.successorKind "key" key.kind)

/-- What `act` makes of the names of settings. No setting is a table of its own. -/
def tableOf (source : String) (key : Answer) (act : String → List String → Value) :
    Except Trouble Answer :=
  match key.value with
  | .text path => do
    match ← w.findAt true (.text path) with
    | .all => return ⟨act path (w.settings.map (·.1)), true⟩
    | .missing name => mishap (.missing name)
    | .value ⟨.none, _⟩ | .nothing | .closed .. => mishap (.noSetting path)
    | .value a => mishap (.tableKind source a.kind)
  | v => mishap (.tableKey source v.shown key.kind)

/-! ## By name -/

/-- What sources are given beside the values of a term. -/
def beside : List (String × Value) :=
  [("_parent_", .none), ("_node_", .none), ("_root_", .none)]

/-- Accepts values that suit the parameters of a source. The last parameters
are given otherwise. -/
def checkGiven (s : Signature) (given : List Answer) : Except Trouble Unit :=
  let named := beside.filter fun (name, _) => s.required.contains name
  match s.bind ⟨given.map (·.value), named⟩ with
  | .ok _ => .ok ()
  | .error p => mishap (.request s.title p)

/-- Accepts one value or two; `others` parameters are given otherwise, and by
their names alone. -/
def checkOneOrTwo (title : String) (names : String × String) (others : Nat)
    (given : List Answer) : Except Trouble Unit :=
  if 2 < given.length ∧ 0 < others then mishap (.tooMany title given.length others)
  else checkGiven ⟨title, 0, [names.1], [(names.2, .none)]⟩ given

/-- The value that the source of a name has for others. -/
def source (name : String) (given : List Answer) : Except Trouble Answer :=
  let one := given.head?.getD ⟨.none, false⟩
  let two := given[1]?
  match name with
  | "oc.select" => do
    checkOneOrTwo "select" ("key", "default") 1 given
    w.select one (two.getD ⟨.none, false⟩)
  | "oc.env" => do
    checkOneOrTwo "env" ("key", "default") 0 given
    variableText one two
  | "oc.decode" => do
    checkGiven ⟨"decode", 0, ["expr", "_parent_", "_node_"], []⟩ given
    w.decode one
  | "oc.create" => do
    checkGiven ⟨"create", 0, ["obj", "_parent_"], []⟩ given
    settingsOf one.value
  | "oc.deprecated" => do
    checkOneOrTwo "deprecated" ("key", "message") 2 given
    w.successor one two
  | "oc.dict.keys" => do
    checkGiven ⟨"keys", 0, ["key", "_parent_"], []⟩ given
    w.tableOf name one fun _ names => .list (names.map .text)
  | "oc.dict.values" => do
    checkGiven ⟨"values", 0, ["key", "_root_", "_parent_"], []⟩ given
    w.tableOf name one fun path names =>
      .list (names.map fun name =>
        .text (openingSigns ++ path ++ "." ++ name ++ closeBrace.toString))
  | name => .error (.problem (.source name))

/-- The value of the setting of a path. -/
def setting (path : String) : Except Trouble Answer :=
  match rootPath? path with
  | none => .error (.problem (.outside path))
  | some path => do
    match ← w.find true path with
    | .value a => return a
    | .nothing => .error (.problem (.unknown path))
    | .all => .error (.problem .allSettings)
    | .missing name => .error (.problem (.missing name))
    | .closed path parent child => mishap (.noTable path parent child)

end Surroundings

end Chip8.Formula
