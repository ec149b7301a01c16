-- The values of formulas. A term on its own keeps the kind of its value;
-- beside other parts it gives its text.
import Chip8.Session.Formula.Problem
import Chip8.Session.Formula.Tree
import Chip8.Session.Problem
import Chip8.Text.Conversion
namespace Chip8.Formula

open Chip8.Text

/-! ## Answers -/

/-- The value of a term. Tables and lists may be settings themselves, which
messages call by another kind. -/
structure Answer where
  value : Value
  asSettings : Bool := false

namespace Answer

/-- The kind of a value, as messages show it. -/
def kind (a : Answer) : String :=
  match a.asSettings, a.value with
  | true, .list _ => "ListConfig"
  | true, _ => "DictConfig"
  | false, v => v.kind

/-- The kind of a value with the part of the library that it belongs to. -/
def fullKind (a : Answer) : String :=
  match a.asSettings, a.value with
  | true, .list _ => "omegaconf.listconfig.ListConfig"
  | true, _ => "omegaconf.dictconfig.DictConfig"
  | false, v => v.kind

end Answer

/-- Why a term has no value. -/
inductive Trouble where
  | problem (p : Problem)
  /-- The value of a formula does not suit the setting of a name. -/
  | misfit (name formula : String) (answer : Answer) (m : Misfit)

/-- A mishap inside a term. -/
def mishap {α : Type} (m : Mishap) : Except Trouble α := .error (.problem (.inside m))

/-- What the values of terms are taken from. -/
structure Scope where
  /-- The value of the setting of a path. -/
  setting : String → Except Trouble Answer
  /-- The value that a source of a name has for others. -/
  source : String → List Answer → Except Trouble Answer

/-! ## Texts -/

/-- Every second character, from the second one on. -/
def everySecond : List Char → List Char
  | _ :: c :: rest => c :: everySecond rest
  | _ => []

/-- Whether a part is a term. -/
def Part.isTerm : Part → Bool
  | term _ => true
  | token _ => false

/-- The text of a token in front of a part. Backslashes that keep other signs
from their work are left out. -/
def Token.plainText (t : Token) (next : Option Part) : String :=
  let halved := String.ofList (everySecond t.text.toList)
  match t.kind with
  | .escapedOpening => String.ofList (t.text.toList.drop (t.text.length - (t.text.length / 2 + 1)))
  | .escape => halved
  | .slashes => if next.any Part.isTerm then halved else t.text
  | .quotedSlashes => if next.all Part.isTerm then halved else t.text
  | _ => t.text

/-- The value of a single token. -/
def Token.value (t : Token) : Except Trouble Value :=
  match t.kind with
  | .nothing => .ok .none
  | .flag => .ok (.flag (t.text.toList.map Char.toLower = "true".toList))
  | .float => .ok (.float ((decimal? t.text).getD 0))
  | .whole =>
    match whole? t.text with
    | some n => .ok (.whole n)
    | none => mishap (.value (.tooManyDigits (t.text.toList.filter Char.isDigit).length))
  | .blank => mishap .blank
  | _ => .ok (.text (t.plainText none))

/-- Entries with one more. A key that is there already gets the new value. -/
def putEntry (entries : List (Value × Value)) (key v : Value) (same : Value → Value → Bool) :
    List (Value × Value) :=
  if entries.any fun (k, _) => same k key then
    entries.map fun (k, w) => if same k key then (k, v) else (k, w)
  else entries ++ [(key, v)]

/-! ## Values -/

mutual
def Term.value (s : Scope) : Term → Except Trouble Answer
  | .setting _ path => do s.setting (String.join (← keyTexts s .keyNoText path))
  | .source _ name given => do
    s.source (String.join (← keyTexts s .nameNoText name)) (← elementValues s given)

/-- The texts of parts that name something. Terms among them have to be
texts. -/
def keyTexts (s : Scope) (noText : String → String → String → Problem) :
    List Part → Except Trouble (List String)
  | [] => .ok []
  | .token t :: rest => do return t.text :: (← keyTexts s noText rest)
  | .term t :: rest => do
    let a ← t.value s
    match a.value.text? with
    | some text => return text :: (← keyTexts s noText rest)
    | none => .error (.problem (noText t.written a.value.shown a.fullKind))

def partTexts (s : Scope) : List Part → Except Trouble (List String)
  | [] => .ok []
  | .token t :: rest => do return t.plainText rest.head? :: (← partTexts s rest)
  | .term t :: rest => do
    let a ← t.value s
    return a.value.shown :: (← partTexts s rest)

/-- The value of parts: that of a single term, or a text. Without quotes
around it, a single token has the value that it spells. -/
def partsValue (s : Scope) (inQuotes : Bool) : List Part → Except Trouble Answer
  | [.term t] => t.value s
  | [.token t] => do
    return ⟨← if inQuotes then .ok (.text (t.plainText none)) else t.value, false⟩
  | parts => do return ⟨.text (String.join (← partTexts s parts)), false⟩

def Element.value (s : Scope) : Element → Except Trouble Answer
  | .primitive parts => partsValue s false parts
  | .quoted parts => do return ⟨.text (← partsValue s true parts).value.shown, false⟩
  | .list elements => do
    return ⟨.list ((← elementValues s elements).map (·.value)), false⟩
  | .table entries => do return ⟨.table (← entryValues s [] entries), false⟩

def elementValues (s : Scope) : List Element → Except Trouble (List Answer)
  | [] => .ok []
  | e :: rest => do return (← e.value s) :: (← elementValues s rest)

/-- Entries of a table behind others. -/
def entryValues (s : Scope) (before : List (Value × Value)) :
    List TableEntry → Except Trouble (List (Value × Value))
  | [] => .ok before
  | .entry key e :: rest => do
    let key ← partsValue s false key
    let a ← e.value s
    entryValues s (putEntry before key.value a.value Value.same) rest
end

end Chip8.Formula
