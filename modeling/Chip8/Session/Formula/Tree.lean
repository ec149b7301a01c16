-- What formulas consist of: texts, and terms that name a setting or give
-- values to a source.
import Chip8.Session.Formula.Token
namespace Chip8.Formula

mutual
/-- A term between a dollar sign with a brace and the brace that closes. It is
kept with the text that it was read from. -/
inductive Term where
  /-- The path of a setting: dots, brackets and keys. -/
  | setting (written : String) (path : List Part)
  /-- The name of a source, with its dots, and the values that it is given. -/
  | source (written : String) (name : List Part) (given : List Element)

/-- A piece of a text, a path or a name. -/
inductive Part where
  | token (t : Token)
  | term (t : Term)

/-- A value that a source is given. -/
inductive Element where
  /-- A value without quotes. -/
  | primitive (parts : List Part)
  /-- A text between quotes. -/
  | quoted (parts : List Part)
  | list (elements : List Element)
  | table (entries : List TableEntry)

/-- A key of a table with its value. -/
inductive TableEntry where
  | entry (key : List Part) (value : Element)
end

/-- The text that a term was read from. -/
def Term.written : Term → String
  | setting written _ => written
  | source written _ _ => written

end Chip8.Formula
