-- Simple formulas, which are taken as they are when they are given: their
-- terms name settings or sources in plain letters. Any others are read at
-- once. What a simple formula has wrong shows when its value is needed.
import Chip8.Text.Placeholder
namespace Chip8.Formula

open Chip8.Text

/-- Whether a character leaves a gap between words. -/
def isGap (c : Char) : Bool := [0x20, 0x09, 0x0A, 0x0B, 0x0C, 0x0D].contains c.toNat

/-- Characters without the gaps around them. -/
def withoutGaps (cs : List Char) : List Char :=
  ((cs.dropWhile isGap).reverse.dropWhile isGap).reverse

/-- Whether a character may stand in a simple key. -/
def isKeyChar (c : Char) : Bool := continuesName c || c = '$'

/-- The rest behind a key, or behind one in brackets. -/
def afterKey? (cs : List Char) : Option (List Char) :=
  match cs with
  | '[' :: cs => match cs.span isKeyChar with
    | (_ :: _, ']' :: rest) => some rest
    | _ => none
  | cs => match cs.span isKeyChar with
    | (_ :: _, rest) => some rest
    | _ => none

/-- Whether characters are more keys of a path, each with a dot in front or in
brackets. The number is one of turns that are enough. -/
def areKeys : Nat → List Char → Bool
  | _, [] => true
  | 0, _ => false
  | turns + 1, c :: cs =>
    let rest? :=
      if c = '.' then match cs with
        | '[' :: _ => none
        | cs => afterKey? cs
      else if c = '[' then afterKey? (c :: cs)
      else none
    match rest? with
    | some rest => areKeys turns rest
    | none => false

/-- Whether characters are a simple path. -/
def isSimplePath (cs : List Char) : Bool :=
  match afterKey? (cs.dropWhile (· = '.')) with
  | some rest => areKeys rest.length rest
  | none => false

/-- The characters between separators. -/
def separated (separator : Char) (cs : List Char) : List (List Char) :=
  (String.ofList cs).splitOn separator.toString |>.map String.toList

/-- Whether characters are a simple name. -/
def isSimpleName : List Char → Bool
  | c :: rest => beginsName c && rest.all fun c => continuesName c || c = '-'
  | [] => false

/-- Whether characters are a simple value. -/
def isSimpleValue (cs : List Char) : Bool :=
  !cs.isEmpty && cs.all fun c => continuesName c || "/-+.$%*@?|".toList.contains c

/-- Whether characters are a simple source with values. Its name may be left
out. -/
def isSimpleSource (cs : List Char) : Bool :=
  let (name, given) := cs.span (· ≠ ':')
  let name := withoutGaps name
  !given.isEmpty && (name.isEmpty || (separated '.' name).all isSimpleName)
    && (separated ',' (given.drop 1)).all fun v => isSimpleValue (withoutGaps v)

/-- Whether characters are a simple term. -/
def isSimpleTerm (cs : List Char) : Bool :=
  isSimplePath (withoutGaps cs) || isSimpleSource cs

/-- Whether every term of characters is simple and comes to an end. What has
been read of a term is given backwards. -/
def areSimple : Pending → List Char → Bool
  | .braced _, [] => false
  | _, [] => true
  | .braced read, c :: rest =>
    if c = closeBrace then isSimpleTerm read.reverse && areSimple .nothing rest
    else areSimple (.braced (c :: read)) rest
  | p, c :: rest =>
    match p, decide (c = openBrace) with
    | .name _, true => areSimple (.braced []) rest
    | _, _ => areSimple (if c = '$' then .name [] else .nothing) rest

/-- Whether a text has only simple terms. -/
def isSimple (s : String) : Bool := areSimple .nothing s.toList

end Chip8.Formula
