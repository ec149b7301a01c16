-- Placeholders: names after a dollar sign, with or without braces around
-- them, for which other texts stand. Two dollar signs stand for one.
namespace Chip8.Text

def openBrace : Char := '\x7b'

/-- The brace that closes. -/
def closeBrace : Char := '\x7d'

/-- Whether a character may begin a name: the letters of ASCII and the
underscore. -/
def beginsName (c : Char) : Bool := c.isAlpha || c = '_'

/-- Whether a character may stand in a name. -/
def continuesName (c : Char) : Bool := beginsName c || c.isDigit

/-- A placeholder that is being read. Names are given backwards. -/
inductive Pending where
  | nothing
  /-- A dollar sign, and a name perhaps. -/
  | name (read : List Char)
  /-- A dollar sign, a brace, and a name perhaps. -/
  | braced (read : List Char)

/-- The text of a name that is known, or the text as it was read. -/
def nameText (known : List (String × String)) (read written : List Char) : List Char :=
  match known.lookup (String.ofList read.reverse) with
  | some text => text.toList
  | none => written

/-- What has been read of a placeholder. -/
def Pending.written : Pending → List Char
  | nothing => []
  | name read => '$' :: read.reverse
  | braced read => '$' :: openBrace :: read.reverse

/-- The text for a placeholder that goes no further. A name in braces that do
not close is none. -/
def Pending.ended (known : List (String × String)) (p : Pending) : List Char :=
  match p with
  | name (c :: read) => nameText known (c :: read) p.written
  | p => p.written

/-- Characters with the texts of known names instead of their placeholders.
Names that are not known stay. -/
def fill (known : List (String × String)) : Pending → List Char → List Char
  | p, [] => p.ended known
  | .nothing, c :: rest =>
    if c = '$' then fill known (.name []) rest else c :: fill known .nothing rest
  | .name [], c :: rest =>
    if c = '$' then c :: fill known .nothing rest
    else if c = openBrace then fill known (.braced []) rest
    else if beginsName c then fill known (.name [c]) rest
    else '$' :: c :: fill known .nothing rest
  | .name read, c :: rest =>
    if continuesName c then fill known (.name (c :: read)) rest
    else
      (Pending.name read).ended known ++
        if c = '$' then fill known (.name []) rest else c :: fill known .nothing rest
  | .braced read, c :: rest =>
    if if read.isEmpty then beginsName c else continuesName c then
      fill known (.braced (c :: read)) rest
    else if c = closeBrace ∧ !read.isEmpty then
      nameText known read ((Pending.braced read).written ++ [c]) ++ fill known .nothing rest
    else
      (Pending.braced read).written ++
        if c = '$' then fill known (.name []) rest else c :: fill known .nothing rest

/-- A text with the texts of known names instead of their placeholders. -/
def filled (known : List (String × String)) (s : String) : String :=
  String.ofList (fill known .nothing s.toList)

end Chip8.Text
