-- Templates: texts with fields between braces. A field gives the name of a
-- value, what is looked up in it, a conversion behind an exclamation mark and
-- a format behind a colon. Two braces stand for one.
import Chip8.Text.Placeholder
import Chip8.Text.Problem
namespace Chip8.Text

/-- What is wrong with a template. -/
inductive TemplateProblem where
  /-- A brace closes nothing. -/
  | loneClose
  /-- A brace opens nothing. -/
  | loneOpen
  /-- A brace opens inside the name of a field. -/
  | openInName
  /-- A field without a format does not close. -/
  | unclosedName
  /-- A field with a format does not close. -/
  | unclosedFormat
  /-- The conversion of a field is left out. -/
  | noConversion
  /-- A conversion goes on. -/
  | longConversion
  /-- There is no such conversion. -/
  | unknownConversion (c : Char)
  /-- A field asks for a value by its place, and there are none. -/
  | noPlace (place : String)
  /-- No value has the name of a field. -/
  | unknownField (name : String)
  /-- What is looked up in a value has no name. -/
  | emptyLookup
  /-- A bracket does not close. -/
  | unclosedBracket
  /-- Something stands behind a bracket. -/
  | behindBracket
  /-- A text has no character at a place. -/
  | noCharacter
  /-- A format cannot be read. -/
  | badFormat
  /-- A format lacks the number of places. -/
  | noPrecision
  /-- Whole numbers have no places. -/
  | wholePrecision
  /-- A value has no use for a field. -/
  | value (problem : ValueProblem)
deriving DecidableEq, Repr

/-- The words for what is wrong with a template. -/
def TemplateProblem.message : TemplateProblem → String
  | loneClose => "Single '\x7d' encountered in format string"
  | loneOpen => "Single '\x7b' encountered in format string"
  | openInName => "unexpected '\x7b' in field name"
  | unclosedName => "expected '\x7d' before end of string"
  | unclosedFormat => "unmatched '\x7b' in format spec"
  | noConversion => "end of string while looking for conversion specifier"
  | longConversion => "expected ':' after conversion specifier"
  | unknownConversion c => "Unknown conversion specifier '" ++ c.toString ++ "'"
  | noPlace place => "Replacement index " ++ place ++ " out of range for positional args tuple"
  | unknownField name => quoted name
  | emptyLookup => "Empty attribute in format string"
  | unclosedBracket => "Missing ']' in format string"
  | behindBracket => "Only '.' or '[' may follow ']' in format field specifier"
  | noCharacter => "string index out of range"
  | badFormat => "Invalid format specifier"
  | noPrecision => "Format specifier missing precision"
  | wholePrecision => "Precision not allowed in integer format specifier"
  | value problem => problem.message

structure TemplateField where
  /-- The name, and what is looked up in its value. -/
  name : String
  conversion : Option Char
  format : String

/-! ## Reading templates -/

/-- The name of a field and the rest, which begins with the sign that ends the
name. Signs in brackets do not count. -/
def fieldName : Bool → List Char → Except TemplateProblem (List Char × List Char)
  | _, [] => .error .unclosedName
  | inBrackets, c :: rest =>
    if inBrackets then (fieldName (c ≠ ']') rest).map fun (name, rest) => (c :: name, rest)
    else if c = openBrace then .error .openInName
    else if c = closeBrace ∨ c = ':' ∨ c = '!' then .ok ([], c :: rest)
    else (fieldName (c = '[') rest).map fun (name, rest) => (c :: name, rest)

/-- The format of a field and the rest behind its brace. The number is that of
the braces that are open. -/
def fieldFormat : Nat → List Char → Except TemplateProblem (List Char × List Char)
  | _, [] => .error .unclosedFormat
  | depth, c :: rest =>
    if c = closeBrace ∧ depth = 1 then .ok ([], rest)
    else
      let depth := if c = openBrace then depth + 1 else if c = closeBrace then depth - 1 else depth
      (fieldFormat depth rest).map fun (format, rest) => (c :: format, rest)

/-- A field behind its brace, and the rest of the template. -/
def templateField (cs : List Char) : Except TemplateProblem (TemplateField × List Char) := do
  let (name, rest) ← fieldName false cs
  let withFormat (conversion : Option Char) (cs : List Char) := do
    let (format, rest) ← fieldFormat 1 cs
    return (⟨String.ofList name, conversion, String.ofList format⟩, rest)
  match rest with
  | ':' :: rest => withFormat none rest
  | '!' :: [] => .error .noConversion
  | '!' :: c :: [] => withFormat (some c) []
  | '!' :: c :: d :: rest =>
    if d = closeBrace then return (⟨String.ofList name, some c, ""⟩, rest)
    else if d = ':' then withFormat (some c) rest
    else .error .longConversion
  | rest => return (⟨String.ofList name, none, ""⟩, rest.drop 1)

/-- The fields of a template up to the first problem. Each takes at least one
character, so that `turns` need not be more than their number. -/
def templateFields : Nat → List Char → List TemplateField × Option TemplateProblem
  | 0, _ | _, [] => ([], none)
  | turns + 1, c :: rest =>
    if c ≠ openBrace ∧ c ≠ closeBrace then templateFields turns rest
    else if rest.head? = some c then templateFields turns (rest.drop 1)
    else if c = closeBrace then ([], some .loneClose)
    else if rest.isEmpty then ([], some .loneOpen)
    else
      match templateField rest with
      | .error p => ([], some p)
      | .ok (field, rest) =>
        let (fields, problem) := templateFields turns rest
        (field :: fields, problem)

/-! ## Formats -/

/-- The last letters of formats for values of a kind. -/
def formatLetters : Value → List Char
  | .text _ => ['s']
  | .float _ => "eEfFgGn%".toList
  | _ => "bcdoxXneEfFgG%".toList

/-- Whether a character says on which side a field is filled. -/
def isAlignment (c : Char) : Bool := "<>=^".toList.contains c

/-- Characters without those in front that are not wanted. -/
def skipOne (unwanted : List Char) : List Char → List Char
  | c :: rest => if unwanted.contains c then rest else c :: rest
  | [] => []

/-- A format without its filling, its signs and its width. -/
def withoutWidth (cs : List Char) : List Char :=
  let cs := match cs with
    | c :: d :: rest =>
      if isAlignment d then rest else if isAlignment c then d :: rest else c :: d :: rest
    | cs => skipOne "<>=^".toList cs
  let cs := skipOne ['#'] (skipOne ['z'] (skipOne "+- ".toList cs))
  skipOne [',', '_'] (cs.dropWhile Char.isDigit)

/-- What is wrong with a format for a value. -/
def formatProblem? (v : Value) (format : String) : Option TemplateProblem :=
  let plain := match v with
    | .text _ | .whole _ | .flag _ | .float _ => false
    | _ => true
  if format.isEmpty then none
  else if plain then some (.value (.plainOnly v.kind))
  else
    let rest := withoutWidth format.toList
    let hasPrecision := rest.head? = some '.'
    let places := (rest.drop 1).takeWhile Char.isDigit
    let letter := if hasPrecision then rest.drop (1 + places.length) else rest
    if hasPrecision ∧ places.isEmpty then some .noPrecision
    else match letter with
      | [] => match v with
        | .whole _ | .flag _ => if hasPrecision then some .wholePrecision else none
        | _ => none
      | [c] =>
        if !(formatLetters v).contains c then some (.value (.noFormat c v.kind))
        else if hasPrecision ∧ "bcdoxX".toList.contains c then some .wholePrecision
        else none
      | _ => some .badFormat

/-! ## Looking up -/

/-- What is looked up in a value, one step after the other. -/
inductive Lookup where
  | property (name : String)
  | element (key : String)

/-- The lookups behind a name. Each takes at least one character, so that
`turns` need not be more than their number. -/
def lookups : Nat → List Char → Except TemplateProblem (List Lookup)
  | 0, _ | _, [] => .ok []
  | turns + 1, c :: rest =>
    if c = '.' then
      let (name, rest) := rest.span fun c => c ≠ '.' ∧ c ≠ '['
      if name.isEmpty then .error .emptyLookup
      else (lookups turns rest).map (.property (String.ofList name) :: ·)
    else if c = '[' then
      match rest.span (· ≠ ']') with
      | (_, []) => .error .unclosedBracket
      | (key, _ :: rest) =>
        if key.isEmpty then .error .emptyLookup
        else (lookups turns rest).map (.element (String.ofList key) :: ·)
    else .error .behindBracket

/-- The name of the value that a field is for, and what is looked up in it. -/
def TemplateField.parts (f : TemplateField) :
    Except TemplateProblem (String × List Lookup) := do
  let (name, rest) := f.name.toList.span fun c => c ≠ '.' ∧ c ≠ '['
  return (String.ofList name, ← lookups rest.length rest)

/-- The value that is looked up in another one. -/
def Lookup.apply (v : Value) : Lookup → Except TemplateProblem Value
  | property name => .error (.value (.lacks v.kind name))
  | element key =>
    match v, key.toNat? with
    | .text s, some n =>
      match s.toList[n]? with
      | some c => .ok (.text c.toString)
      | none => .error .noCharacter
    | .text _, none => .error (.value .textPlace)
    | v, _ => .error (.value (.noSlice v.kind))

/-- What fields are filled with: a value, or something of a kind that is only
shown. -/
inductive Filling where
  | value (v : Value)
  | thing (kind : String)

/-- The filling of a field among those that have a name. -/
def TemplateField.filling (f : TemplateField) (known : List (String × Filling)) :
    Except TemplateProblem Filling := do
  let (name, steps) ← f.parts
  if name.isEmpty then .error (.noPlace "0")
  else if name.toList.all Char.isDigit then .error (.noPlace (toString (name.toNat?.getD 0)))
  else match known.lookup name, steps with
    | none, _ => .error (.unknownField name)
    | some (.thing kind), [] => return .thing kind
    | some (.thing kind), .property name :: _ => .error (.value (.lacks kind name))
    | some (.thing kind), .element _ :: _ => .error (.value (.noSlice kind))
    | some (.value v), steps => return .value (← steps.foldlM Lookup.apply v)

/-- Whether a field can be filled, and with what. -/
def TemplateField.check (f : TemplateField) (known : List (String × Filling)) :
    Except TemplateProblem Filling := do
  let filling ← f.filling known
  match f.conversion, filling with
  | some c, _ =>
    if c ∉ ['r', 's', 'a'] then .error (.unknownConversion c)
    else match formatProblem? (.text "") f.format with
      | some p => .error p
      | none => return .value (.text "")
  | none, .value v =>
    match formatProblem? v f.format with
    | some p => .error p
    | none => return filling
  | none, .thing _ => return filling

end Chip8.Text
