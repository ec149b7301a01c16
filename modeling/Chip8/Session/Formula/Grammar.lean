-- Formulas read from their tokens. Reading stops at the first token that
-- cannot come next, and the stop tells what could.
import Chip8.Session.Formula.Scan
import Chip8.Session.Formula.Tree
namespace Chip8.Formula

/-! ## Stops -/

/-- What was wanted where reading stopped. -/
inductive Wanted where
  /-- One of several kinds, to go on with. -/
  | oneOf (kinds : List TokenKind)
  /-- One of several kinds, to go on with after a turn of a repetition. -/
  | another (kinds : List TokenKind)
  /-- A single kind, and the kinds that come behind it. -/
  | single (kind : TokenKind) (behind : List TokenKind)
  /-- A term, whose tokens are given with all that follow, and which is neither
  that of a setting nor that of a source. -/
  | term (start : List Token)

/-- Where reading stopped, with the tokens from there on. -/
structure Stop where
  wanted : Wanted
  rest : List Token

/-- The next token. -/
def first : List Token → Token
  | t :: _ => t
  | [] => ⟨.ending, "<EOF>"⟩

/-- A text as messages show it, with marks for line ends and tabulators. -/
def displayed (s : String) : String :=
  let shown := s.toList.map fun
    | '\n' => "\\n"
    | '\r' => "\\r"
    | '\t' => "\\t"
    | c => c.toString
  "'" ++ String.join shown ++ "'"

/-- What is said of a token that is none. -/
def Token.problem? (t : Token) : Option String :=
  match t.kind with
  | .unread => some ("token recognition error at: " ++ displayed t.text)
  | .unopened => some "Empty Stack"
  | _ => none

namespace Stop

/-- What is said of a token where others were wanted. -/
def misplaced (word : String) (t : Token) (kinds : List TokenKind) : String :=
  word ++ " input " ++ displayed t.text ++ " expecting " ++ TokenKind.listed kinds

/-- The words for a stop. A token counts as extraneous if the one behind it
was wanted. -/
def words (s : Stop) : String :=
  let next := first s.rest
  let second := first (s.rest.drop 1)
  let stray (kinds : List TokenKind) : Option String :=
    second.problem?.or
      (if kinds.contains second.kind then some (misplaced "extraneous" next kinds) else none)
  match s.wanted with
  | .oneOf kinds => (stray kinds).getD (misplaced "mismatched" next kinds)
  | .another kinds => misplaced "extraneous" next kinds
  | .single kind behind =>
    (stray [kind]).getD
      (if behind.contains next.kind then
        "missing " ++ TokenKind.listed [kind] ++ " at " ++ displayed next.text
      else misplaced "mismatched" next [kind])
  | .term start =>
    let read := start.take (start.length - s.rest.length + 1)
    (s.rest.findSome? Token.problem?).getD
      ("no viable alternative at input " ++ displayed (String.join (read.map (·.text))))

/-- What is said of a stop. A token that is none comes before all else. -/
def message (s : Stop) : String := (first s.rest).problem?.getD s.words

end Stop

/-! ## Reading -/

/-- A reading of tokens, which may stop. -/
abbrev Read := StateT (List Token) (Except Stop)

namespace Read

/-- Stops in front of the next token. -/
def stop {α : Type} (wanted : Wanted) : Read α := do throw ⟨wanted, ← get⟩

/-- The kind of the next token. -/
def peek : Read TokenKind := do return (first (← get)).kind

/-- The next token, which is taken. -/
def take : Read Token := do
  let tokens ← get
  set (tokens.drop 1)
  return first tokens

/-- Takes a token of a kind. -/
def expect (kind : TokenKind) (behind : List TokenKind) : Read Unit := do
  if (← peek) = kind then discard take else stop (.single kind behind)

/-- Accepts a next token of some kinds. -/
def check (wanted : List TokenKind → Wanted) (kinds : List TokenKind) : Read Unit := do
  unless kinds.contains (← peek) do stop (wanted kinds)

/-- A reading whose stops are those of a term that began before. -/
def within {α : Type} (start : List Token) (r : Read α) : Read α := fun tokens =>
  (r tokens).mapError fun s => ⟨.term start, s.rest⟩

/-- The tokens of some kinds that come next. -/
def takeAll (kinds : List TokenKind) : Read (List Part) := do
  let tokens ← get
  let (read, rest) := tokens.span fun t => kinds.contains t.kind
  set rest
  return read.map .token

/-- The text of tokens that were taken since some others came next. -/
def written (start : List Token) : Read String := do
  let taken := start.take (start.length - (← get).length)
  return String.join (taken.map (·.text))

end Read

open Read

/-- What may come behind a part of a text that a kind of token ends. -/
def textFollow (ends : TokenKind) : List TokenKind := ends :: TokenKind.ofText

/-- A text without a character. -/
def emptyText : Element := .quoted []

mutual
/-- A term. What may come behind it is given by kinds. -/
def term : Nat → List TokenKind → Read Term
  | 0, follow => stop (.oneOf follow)
  | fuel + 1, follow => do
    let start ← get
    discard take
    termHead fuel follow start []

/-- The rest of a term that may be that of a setting or of a source, after
parts that end with a dot, if there are any. They are given backwards. -/
def termHead : Nat → List TokenKind → List Token → List Part → Read Term
  | 0, follow, _, _ => stop (.oneOf follow)
  | fuel + 1, follow, start, read => do
    match ← peek with
    | .name => termNext fuel follow start (.token (← take) :: read)
    | .opening =>
      let inner ← within start (term fuel [])
      termNext fuel follow start (.term inner :: read)
    | .key => settingPath fuel read.isEmpty start (.token (← take) :: read)
    | .dot | .bracketOpen =>
      if read.isEmpty then settingStart fuel start [] else stop (.term start)
    | _ => stop (.term start)

/-- The rest of such a term after a name. -/
def termNext : Nat → List TokenKind → List Token → List Part → Read Term
  | 0, follow, _, _ => stop (.oneOf follow)
  | fuel + 1, follow, start, read => do
    match ← peek with
    | .dot => termHead fuel follow start (.token (← take) :: read)
    | .bracketOpen | .closing => settingPath fuel false start read
    | .colon =>
      discard take
      let given ← sequence fuel .tableClose
      expect .tableClose follow
      return .source (← written start) read.reverse given
    | _ => stop (.term start)

/-- The path of a setting from its first dots on. -/
def settingStart : Nat → List Token → List Part → Read Term
  | 0, _, _ => stop (.oneOf [])
  | fuel + 1, start, read => do
    match ← peek with
    | .dot =>
      let dot ← take
      check .another TokenKind.ofPathStart
      settingStart fuel start (.token dot :: read)
    | .bracketOpen => bracketKey fuel true start read
    | _ => settingPath fuel true start ((← settingKey fuel TokenKind.ofPath) :: read)

/-- The path of a setting from a key in brackets on. -/
def bracketKey : Nat → Bool → List Token → List Part → Read Term
  | 0, _, _, _ => stop (.oneOf [])
  | fuel + 1, isFirst, start, read => do
    let left ← take
    let key ← settingKey fuel [.bracketClose]
    let right := first (← get)
    expect .bracketClose TokenKind.ofPath
    settingPath fuel isFirst start (.token right :: key :: .token left :: read)

/-- A key in the path of a setting. -/
def settingKey : Nat → List TokenKind → Read Part
  | 0, follow => stop (.oneOf follow)
  | fuel + 1, follow => do
    check .oneOf TokenKind.ofKey
    match ← peek with
    | .opening => return .term (← term fuel follow)
    | _ => return .token (← take)

/-- The path of a setting behind a key. -/
def settingPath : Nat → Bool → List Token → List Part → Read Term
  | 0, _, _, _ => stop (.oneOf [])
  | fuel + 1, isFirst, start, read => do
    check (if isFirst then .oneOf else .another) TokenKind.ofPath
    match ← peek with
    | .dot =>
      let dot ← take
      settingPath fuel false start ((← settingKey fuel TokenKind.ofPath) :: .token dot :: read)
    | .bracketOpen => bracketKey fuel false start read
    | _ =>
      discard take
      return .setting (← written start) read.reverse

/-- Elements with commas between them, up to a token of a kind, which stays.
Where an element is left out, an empty text stands. -/
def sequence : Nat → TokenKind → Read (List Element)
  | 0, _ => stop (.oneOf [])
  | fuel + 1, ends => do
    check .oneOf (ends :: .comma :: TokenKind.ofElement)
    if (← peek) = ends then return [] else sequenceRest fuel ends true

/-- The rest of a sequence, after a comma or not. -/
def sequenceRest : Nat → TokenKind → Bool → Read (List Element)
  | 0, _, _ => stop (.oneOf [])
  | fuel + 1, ends, afterComma => do
    let kind ← peek
    if kind = .comma then
      discard take
      let rest ← sequenceRest fuel ends true
      return if afterComma then emptyText :: rest else rest
    else if afterComma ∧ TokenKind.ofElement.contains kind then
      let head ← element fuel [.comma, ends]
      return head :: (← sequenceRest fuel ends false)
    else return if afterComma then [emptyText] else []

/-- An element. What may come behind it is given by kinds. -/
def element : Nat → List TokenKind → Read Element
  | 0, follow => stop (.oneOf follow)
  | fuel + 1, follow => do
    check .oneOf TokenKind.ofElement
    match ← peek with
    | .quoteSingle | .quoteDouble =>
      discard take
      check .oneOf (textFollow .quoteClose)
      let parts ← textParts fuel TokenKind.ofText (textFollow .quoteClose)
      expect .quoteClose follow
      return .quoted parts
    | .bracketOpen =>
      discard take
      let elements ← sequence fuel .bracketClose
      expect .bracketClose follow
      return .list elements
    | .tableOpen =>
      discard take
      check .oneOf (.tableClose :: TokenKind.ofTableKey)
      if (← peek) = .tableClose then
        discard take
        return .table []
      else return .table (← tableEntries fuel true)
    | _ =>
      let kinds := TokenKind.ofPrimitive
      return .primitive (← textParts fuel kinds (kinds ++ follow))

/-- Parts of some kinds, terms among them. -/
def textParts : Nat → List TokenKind → List TokenKind → Read (List Part)
  | 0, _, _ => return []
  | fuel + 1, kinds, follow => do
    let kind ← peek
    if !kinds.contains kind then return []
    else if kind = .opening then
      let head ← term fuel follow
      return .term head :: (← textParts fuel kinds follow)
    else
      let head ← take
      return .token head :: (← textParts fuel kinds follow)

/-- The entries of a table, and the brace behind them. -/
def tableEntries : Nat → Bool → Read (List TableEntry)
  | 0, _ => stop (.oneOf [])
  | fuel + 1, isFirst => do
    check .oneOf TokenKind.ofTableKey
    let key ← takeAll TokenKind.ofTableKey
    expect .colon TokenKind.ofElement
    let value ← element fuel [.comma, .tableClose]
    check (if isFirst then .oneOf else .another) [.tableClose, .comma]
    let sign ← take
    if sign.kind = .comma then return .entry key value :: (← tableEntries fuel false)
    else return [.entry key value]
end

/-! ## Formulas and elements -/

/-- Enough for the tokens of a formula: each function takes a token after at
most three calls. -/
def fuelFor (tokens : List Token) : Nat := 4 * tokens.length + 4

/-- A reading of all tokens of a text. -/
def readAll {α : Type} (mode : Mode) (s : String) (read : Nat → Read α) : Except Stop α :=
  let tokens := tokensOf mode s
  let whole : Read α := do
    let answer ← read (fuelFor tokens)
    expect .ending [.ending]
    return answer
  (whole tokens).map (·.1)

def partsOf (s : String) : Except Stop (List Part) :=
  readAll .text s fun fuel => textParts fuel TokenKind.ofText (textFollow .ending)

/-- The element that a text spells. -/
def Element.ofText (s : String) : Except Stop Element :=
  readAll .values s fun fuel => element fuel [.ending]

end Chip8.Formula
