-- Paths of files: names between slashes, from the current folder on or from
-- the root.
namespace Chip8

/-- A path taken apart. -/
structure Path where
  /-- The slashes in front: none from the current folder on, else one or two. -/
  root : String
  /-- The names on the way, which a single dot and two dots may be among. -/
  names : List String
  /-- Whether a slash stands behind the last name. -/
  slashEnd : Bool
deriving DecidableEq, Repr

namespace Path

/-- The slashes in front of a path. Three or more count as one. -/
def rootOf (cs : List Char) : String :=
  match (cs.takeWhile (· = '/')).length with
  | 0 => ""
  | 2 => "//"
  | _ => "/"

/-- A text as a path. Empty names are left out. -/
def ofText (s : String) : Path :=
  { root := rootOf s.toList
    names := (s.splitOn "/").filter (· ≠ "")
    slashEnd := s.endsWith "/" }

/-- The path without names that stay in the same folder and without a slash
at its end. -/
def tidy (p : Path) : Path := { p with names := p.names.filter (· ≠ "."), slashEnd := false }

/-- The text of a path that starts from a folder, unless it starts from the
root. -/
def text (p : Path) (folder : String) : String :=
  if p.root = "" then String.intercalate "/" (folder :: p.names)
  else p.root ++ String.intercalate "/" p.names

/-- The last name of a path as a text. -/
def lastName (s : String) : List Char := (s.toList.reverse.takeWhile (· ≠ '/')).reverse

/-- The ending of a file name, from its last dot on. Dots at the front of the
name begin no ending. -/
def ending (s : String) : String :=
  let name := (lastName s).dropWhile (· = '.')
  let last := name.reverse.takeWhile (· ≠ '.')
  if last.length = name.length then "" else String.ofList ('.' :: last.reverse)

end Path

end Chip8
