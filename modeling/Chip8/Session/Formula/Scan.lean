-- Formulas taken apart into tokens. What is read depends on where it stands:
-- in a text, between the braces of a setting's path, among the values that a
-- source is given, or between quotes. Of several tokens that could be read the
-- longest one counts, and of equally long ones the first in the list.
import Chip8.Session.Formula.Token
import Chip8.Text.Placeholder
namespace Chip8.Formula

open Chip8.Text

/-- Where characters stand. -/
inductive Mode where
  | text
  | path
  | values
  | quotes (quote : Char)
deriving DecidableEq, Repr

/-- What a token does to the places that are open. -/
inductive Move where
  | stay
  | enter (mode : Mode)
  | become (mode : Mode)
  | leave

/-- A way to read a token. -/
structure Rule where
  kind : TokenKind
  /-- How many characters belong to the token; none if there is none. -/
  size : List Char → Nat
  move : Move := .stay

/-! ## Sizes -/

/-- Whether a character is a space or a tabulator. -/
def isSpace (c : Char) : Bool := c = ' ' || c = '\t'

/-- The number of blanks in front. -/
def blanks (cs : List Char) : Nat := (cs.takeWhile isSpace).length

/-- The size of a text at the beginning. -/
def sizeOf (wanted : String) (cs : List Char) : Nat :=
  if wanted.toList.isPrefixOf cs then wanted.length else 0

/-- The size of a text at the beginning, in letters of either case. -/
def sizeOfWord (wanted : String) (cs : List Char) : Nat :=
  sizeOf wanted (cs.map Char.toLower)

/-- The size of a sign with the blanks behind it. -/
def sizeBefore (wanted : String) (cs : List Char) : Nat :=
  match sizeOf wanted cs with
  | 0 => 0
  | n => n + blanks (cs.drop n)

/-- The size of a sign with the blanks in front of it. -/
def sizeBehind (wanted : String) (cs : List Char) : Nat :=
  match sizeOf wanted (cs.drop (blanks cs)) with
  | 0 => 0
  | n => blanks cs + n

/-- The size of a sign with the blanks around it. -/
def sizeBetween (wanted : String) (cs : List Char) : Nat :=
  match sizeBehind wanted cs with
  | 0 => 0
  | n => n + blanks (cs.drop n)

/-- The signs that open a formula's term. -/
def openingSigns : String := "$" ++ openBrace.toString

/-- The number of backslashes in front. -/
def slashCount (cs : List Char) : Nat := (cs.takeWhile (· = '\\')).length

/-- The size of an odd number of backslashes with a sign behind them. -/
def sizeEscaped (wanted : String) (cs : List Char) : Nat :=
  let n := slashCount cs
  if n % 2 = 1 then (match sizeOf wanted (cs.drop n) with
    | 0 => 0
    | size => n + size)
  else 0

/-- The size of a text without dollar signs, and without the characters of a
list, that does not end with a backslash. -/
def sizePlain (without : List Char) (cs : List Char) : Nat :=
  let read := cs.takeWhile fun c => c ≠ '$' && !without.contains c
  read.length - slashCount read.reverse

/-- The size of digits, with single underscores between them. -/
def digitsSize : List Char → Nat
  | [] => 0
  | c :: rest =>
    if !c.isDigit then 0
    else match rest with
      | '_' :: d :: more => if d.isDigit then 2 + digitsSize (d :: more) else 1
      | rest => 1 + digitsSize rest

/-- The size of a whole number without a sign. It has no zeros in front. -/
def wholeSize (cs : List Char) : Nat :=
  match cs with
  | '0' :: _ => 1
  | cs => digitsSize cs

/-- The size of a number with a point. -/
def pointedSize (cs : List Char) : Nat :=
  let before := wholeSize cs
  match cs.drop before with
  | '.' :: rest =>
    let after := digitsSize rest
    if before = 0 ∧ after = 0 then 0 else before + 1 + after
  | _ => 0

def exponentSize : List Char → Nat
  | c :: rest =>
    if c ≠ 'e' ∧ c ≠ 'E' then 0
    else
      let sign := match rest with
        | '+' :: _ | '-' :: _ => 1
        | _ => 0
      match digitsSize (rest.drop sign) with
      | 0 => 0
      | n => 1 + sign + n
  | [] => 0

/-- The size of a number with an exponent, behind a number of a size. -/
def withExponent (size : Nat) (cs : List Char) : Nat :=
  match size, exponentSize (cs.drop size) with
  | 0, _ | _, 0 => 0
  | size, n => size + n

/-- The size with a sign in front, if there is one. -/
def signed (size : List Char → Nat) (cs : List Char) : Nat :=
  match cs with
  | '+' :: rest | '-' :: rest => match size rest with
    | 0 => 0
    | n => n + 1
  | cs => size cs

/-- The size of a number that is not whole. -/
def floatSize : List Char → Nat :=
  signed fun cs =>
    [pointedSize cs, withExponent (wholeSize cs) cs, withExponent (pointedSize cs) cs,
      sizeOfWord "inf" cs, sizeOfWord "nan" cs].foldl max 0

def nameSize : List Char → Nat
  | c :: rest =>
    if beginsName c then 1 + (rest.takeWhile fun c => continuesName c || c = '-').length else 0
  | [] => 0

/-- The characters that a backslash keeps from ending a text. -/
def escapable : List Char := '\\' :: "()[]:=, \t".toList ++ [openBrace, closeBrace]

/-- The size of pairs of a backslash and a character. -/
def escapeSize : List Char → Nat
  | '\\' :: c :: rest => if escapable.contains c then 2 + escapeSize rest else 0
  | _ => 0

/-- The size of a key of a setting. -/
def keySize (cs : List Char) : Nat :=
  (cs.takeWhile fun c =>
    !("\\()[]:. \t'\"".toList ++ [openBrace, closeBrace]).contains c).length

/-- The size of a single character of a list. -/
def oneOf (wanted : List Char) : List Char → Nat
  | c :: _ => if wanted.contains c then 1 else 0
  | [] => 0

/-! ## Rules -/

/-- Opens a term. -/
def openingRule : Rule := ⟨.opening, sizeBefore openingSigns, .enter .path⟩

/-- What is read in a text that some characters end. -/
def textRules (without : List Char) : List Rule := [
  ⟨.plain, sizePlain without, .stay⟩,
  ⟨.escapedOpening, sizeEscaped openingSigns, .stay⟩]

/-- What backslashes and dollar signs are otherwise. -/
def restRules (pairs : TokenKind) : List Rule := [
  ⟨pairs, fun cs => 2 * (slashCount cs / 2), .stay⟩,
  ⟨.plain, slashCount, .stay⟩,
  ⟨.plain, oneOf ['$'], .stay⟩]

/-- What is read in the path of a setting. -/
def pathRules : List Rule := [
  openingRule,
  ⟨.colon, sizeBetween ":", .become .values⟩,
  ⟨.closing, sizeBehind closeBrace.toString, .leave⟩,
  ⟨.dot, oneOf ['.'], .stay⟩,
  ⟨.bracketOpen, oneOf ['['], .stay⟩,
  ⟨.bracketClose, oneOf [']'], .stay⟩,
  ⟨.name, nameSize, .stay⟩,
  ⟨.key, keySize, .stay⟩]

/-- What is read among values. -/
def valueRules : List Rule := [
  openingRule,
  ⟨.tableOpen, sizeBefore openBrace.toString, .enter .values⟩,
  ⟨.tableClose, sizeBehind closeBrace.toString, .leave⟩,
  ⟨.quoteSingle, oneOf ['\''], .enter (.quotes '\'')⟩,
  ⟨.quoteDouble, oneOf ['"'], .enter (.quotes '"')⟩,
  ⟨.comma, sizeBetween ",", .stay⟩,
  ⟨.bracketOpen, sizeBefore "[", .stay⟩,
  ⟨.bracketClose, sizeBehind "]", .stay⟩,
  ⟨.colon, sizeBetween ":", .stay⟩,
  ⟨.float, floatSize, .stay⟩,
  ⟨.whole, signed wholeSize, .stay⟩,
  ⟨.flag, fun cs => max (sizeOfWord "true" cs) (sizeOfWord "false" cs), .stay⟩,
  ⟨.nothing, sizeOfWord "null", .stay⟩,
  ⟨.sign, oneOf "/-\\+.$%*@?|".toList, .stay⟩,
  ⟨.name, nameSize, .stay⟩,
  ⟨.escape, escapeSize, .stay⟩,
  ⟨.blank, blanks, .stay⟩]

/-- What is read in a place. -/
def Mode.rules : Mode → List Rule
  | text => openingRule :: textRules [] ++ restRules .slashes
  | path => pathRules
  | values => valueRules
  | quotes quote =>
    openingRule :: ⟨.quoteClose, oneOf [quote], .leave⟩ :: textRules [quote]
      ++ ⟨.escape, sizeEscaped quote.toString, .stay⟩ :: restRules .quotedSlashes

/-! ## Tokens -/

/-- The rule that reads the most, the first one of several. -/
def longest (rules : List Rule) (cs : List Char) : Option Rule :=
  rules.foldl (fun best rule =>
    let size := (best.map fun r => r.size cs).getD 0
    if size < rule.size cs then some rule else best) none

/-- The places that are open after a move, the inmost one in front. There are
none after a move out of the last one. -/
def Move.apply : Move → List Mode → List Mode
  | stay, modes => modes
  | enter mode, modes => mode :: modes
  | become mode, modes => mode :: modes.drop 1
  | leave, modes => modes.drop 1

/-- Characters that begin no token: blanks and what comes behind them. -/
def unreadToken (cs : List Char) : Token :=
  ⟨.unread, String.ofList (cs.take (blanks cs + 1))⟩

/-- The tokens of characters. Each takes at least one of them, so that `fuel`
need not be more than their number. -/
def scan : Nat → List Mode → List Char → List Token
  | 0, _, _ | _, _, [] => []
  | _, [], _ => []
  | fuel + 1, mode :: modes, cs =>
    match longest mode.rules cs with
    | none => [unreadToken cs]
    | some rule =>
      let size := rule.size cs
      let token : Token := ⟨rule.kind, String.ofList (cs.take size)⟩
      match rule.move.apply (mode :: modes) with
      | [] => [⟨.unopened, token.text⟩]
      | modes => token :: scan fuel modes (cs.drop size)

/-- The tokens of a text that begins in a place. -/
def tokensOf (mode : Mode) (s : String) : List Token := scan s.length [mode] s.toList

end Chip8.Formula
