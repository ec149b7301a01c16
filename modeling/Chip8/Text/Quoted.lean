-- Texts between quotes, as messages show them, and texts cut into lines. The
-- quote is a single one unless the text holds single quotes and no double one.
-- Backslashes, the quote itself and characters without ink are written as
-- escapes.
import Chip8.Text.Blank
import Chip8.Text.Figure
namespace Chip8.Text

/-- A hexadecimal numeral in small digits that fills `width` places. -/
def smallHex (width n : Nat) : String :=
  String.ofList ((hex width n).toList.map Char.toLower)

/-- The quote that a text is written between. -/
def quoteFor (s : String) : Char :=
  if s.contains '\'' && !s.contains '"' then '"' else '\''

/-- One character of a quoted text. -/
def escaped (quote c : Char) : String :=
  if c = quote ∨ c = '\\' then "\\" ++ c.toString
  else if c = '\n' then "\\n"
  else if c = '\r' then "\\r"
  else if c = '\t' then "\\t"
  else if !isInkless c then c.toString
  else if c.toNat < 0x100 then "\\x" ++ smallHex 2 c.toNat
  else if c.toNat < 0x10000 then "\\u" ++ smallHex 4 c.toNat
  else "\\U" ++ smallHex 8 c.toNat

/-- A text between quotes. -/
def quoted (s : String) : String :=
  let quote := quoteFor s
  quote.toString ++ String.join (s.toList.map (escaped quote)) ++ quote.toString

/-! ## Lines -/

/-- The characters that end a line. There are many besides the line feed. -/
def isLineEnd (c : Char) : Bool :=
  let n := c.toNat
  0x0A ≤ n && n ≤ 0x0D || 0x1C ≤ n && n ≤ 0x1E || [0x85, 0x2028, 0x2029].contains n

/-- The lines of characters. `line` is what was read of the first one,
backwards. A carriage return and a line feed behind it form one end, and a text
that ends with the end of a line has no line behind it. -/
def cutLines (line : List Char) : List Char → List (List Char)
  | [] => if line.isEmpty then [] else [line.reverse]
  | '\r' :: '\n' :: rest => line.reverse :: cutLines [] rest
  | c :: rest => if isLineEnd c then line.reverse :: cutLines [] rest else cutLines (c :: line) rest

/-- The lines of a text without their ends. -/
def lines (s : String) : List String := (cutLines [] s.toList).map String.ofList

end Chip8.Text
