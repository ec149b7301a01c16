-- The tokens of formulas, and the names that messages have for their kinds.
namespace Chip8.Formula

/-- The kinds of tokens, in the order in which messages list them. -/
inductive TokenKind where
  /-- The end of the formula. -/
  | ending
  /-- A text that stands for itself. -/
  | plain
  /-- A dollar sign and a brace that stand for themselves, after a backslash. -/
  | escapedOpening
  /-- Pairs of backslashes. -/
  | slashes
  /-- A dollar sign and a brace. -/
  | opening
  | tableOpen
  | tableClose
  | quoteSingle
  | quoteDouble
  | comma
  | bracketOpen
  | bracketClose
  | colon
  | float
  | whole
  | flag
  | nothing
  /-- A character that may stand in a text without quotes. -/
  | sign
  | name
  /-- Backslashes in front of characters that would end a text. -/
  | escape
  | blank
  /-- The brace that ends what names a setting. -/
  | closing
  | dot
  /-- A key that is no name. -/
  | key
  | quoteClose
  /-- Pairs of backslashes between quotes. -/
  | quotedSlashes
  /-- Characters that begin no token. -/
  | unread
  /-- A brace that closes nothing. -/
  | unopened
deriving DecidableEq, Repr

namespace TokenKind

/-- All kinds that messages list, with their names there. -/
def names : List (TokenKind × String) := [
  (ending, "<EOF>"), (plain, "ANY_STR"), (escapedOpening, "ESC_INTER"), (slashes, "TOP_ESC"),
  (opening, "INTER_OPEN"), (tableOpen, "BRACE_OPEN"), (tableClose, "BRACE_CLOSE"),
  (quoteSingle, "QUOTE_OPEN_SINGLE"), (quoteDouble, "QUOTE_OPEN_DOUBLE"), (comma, "COMMA"),
  (bracketOpen, "BRACKET_OPEN"), (bracketClose, "BRACKET_CLOSE"), (colon, "COLON"),
  (float, "FLOAT"), (whole, "INT"), (flag, "BOOL"), (nothing, "NULL"), (sign, "UNQUOTED_CHAR"),
  (name, "ID"), (escape, "ESC"), (blank, "WS"), (closing, "INTER_CLOSE"), (dot, "'.'"),
  (key, "INTER_KEY"), (quoteClose, "MATCHING_QUOTE_CLOSE"), (quotedSlashes, "QUOTED_ESC")]

/-- Kinds as a message lists them. -/
def listed (kinds : List TokenKind) : String :=
  match names.filter fun (kind, _) => kinds.contains kind with
  | [(_, shown)] => shown
  | many => "\x7b" ++ String.intercalate ", " (many.map (·.2)) ++ "\x7d"

/-! ## What may come next -/

/-- What a text consists of. -/
def ofText : List TokenKind :=
  [plain, escapedOpening, slashes, opening, escape, quotedSlashes]

/-- What a key of a table consists of. -/
def ofTableKey : List TokenKind := [float, whole, flag, nothing, sign, name, escape, blank]

/-- What a value without quotes or brackets consists of. -/
def ofPrimitive : List TokenKind := opening :: colon :: ofTableKey

/-- What an element begins with. -/
def ofElement : List TokenKind :=
  tableOpen :: quoteSingle :: quoteDouble :: bracketOpen :: ofPrimitive

/-- What the key of a setting begins with. -/
def ofKey : List TokenKind := [opening, name, key]

/-- What the path of a setting begins with. -/
def ofPathStart : List TokenKind := bracketOpen :: dot :: ofKey

/-- What comes after the key of a setting. -/
def ofPath : List TokenKind := [bracketOpen, closing, dot]

end TokenKind

structure Token where
  kind : TokenKind
  text : String
deriving DecidableEq, Repr

end Chip8.Formula
