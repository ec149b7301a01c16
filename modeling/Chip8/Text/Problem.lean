-- What goes wrong with values of the wrong kind, and the words for it. Many
-- values have to fit a byte, a word of 64 bits or half of one.
import Chip8.Text.Value
namespace Chip8.Text

/-! ## Words -/

/-- Whether a number fits a word of 64 bits with a sign. -/
def fitsWord (v : Int) : Bool := -0x8000000000000000 ≤ v && v < 0x8000000000000000

/-- Whether a number fits half a word with a sign. -/
def fitsHalfWord (v : Int) : Bool := -0x80000000 ≤ v && v < 0x80000000

/-- What is said of a number that does not fit a word. -/
def tooLargeForWord : String := "Python int too large to convert to C long"

/-- What is said of a number that is not a byte. -/
def notByte (v : Int) : String :=
  if fitsWord v then "Python integer " ++ toString v ++ " out of bounds for uint8"
  else tooLargeForWord

/-! ## Values of the wrong kind -/

/-- Why a value was of no use. Kinds are given by their names. -/
inductive ValueProblem where
  /-- Values of a kind are not written in the way that a letter stands for. -/
  | noFormat (letter : Char) (kind : String)
  /-- Values of a kind are not written in any special way. -/
  | plainOnly (kind : String)
  /-- A text has no groups of digits. -/
  | noGroups
  /-- Values of two kinds have no such operation. -/
  | noOperation (sign left right : String)
  /-- Values of a kind have no sign. -/
  | noSign (kind : String)
  /-- Values of a kind have no size. -/
  | noMagnitude (kind : String)
  /-- Values of a kind have no length. -/
  | noLength (kind : String)
  /-- Something is divided by zero; the text names the division. -/
  | byZero (division : String)
  /-- The quotient of whole numbers is above every double. -/
  | quotientTooLarge
  /-- Values of two kinds have no order. -/
  | noOrder (sign left right : String)
  /-- A value of a kind is only joined to others of its kind. -/
  | noJoin (kind other : String)
  /-- Values of a kind lack a property. -/
  | lacks (kind property : String)
  /-- A whole number is above every double. -/
  | tooLargeForFloat
  /-- Values of a kind stand for no whole number. -/
  | noWhole (kind : String)
  /-- A text spells no whole number in a base. -/
  | noNumeral (base : Nat) (shown : String)
  /-- A text spells no bytes; a character at a place is no digit. -/
  | noHex (place : Nat)
  /-- What is repeated is not counted in values of a kind. -/
  | noRepeat (kind : String)
  /-- A numeral has more digits than one may have. -/
  | tooManyDigits (count : Nat)
  /-- What is no number has no whole number. -/
  | wholeOfNone
  /-- An infinite number has no whole number. -/
  | wholeOfInfinity
  /-- Values of a kind do not count anything. -/
  | noCount (kind : String)
  /-- A size is no whole number. -/
  | noSize
  /-- Values of a kind have no elements. -/
  | noElements (kind : String)
  /-- Values of a kind hold nothing that could be looked for. -/
  | noMembers (kind : String)
  /-- Only texts are looked for in a text. -/
  | noPart (kind : String)
  /-- Values of a kind cannot be cut. -/
  | noSlice (kind : String)
  /-- The places of a text are whole numbers. -/
  | textPlace
  /-- Only whole numbers are places of a table of pixels. -/
  | noTablePlace
  /-- A table has no such column. -/
  | outsideTable (column : Int) (width : Nat)
  /-- Values of a kind are no keys of a table. -/
  | noKey (kind : String)
  /-- There are fewer values than wanted. -/
  | tooFew (wanted got : Nat)
  /-- There are more values than wanted. -/
  | tooMany (wanted : Nat)
  /-- Values of a kind cannot be taken apart. -/
  | noParts (kind : String)
  /-- Values of a kind are no text where one is needed. -/
  | noText (kind : String)
  /-- Values of a kind are no bytes. -/
  | noBytes (kind : String)
  /-- The bytes of a text depend on how it is written. -/
  | textBytes
  /-- There are no fewer bytes than none. -/
  | negativeCount
  /-- Values of a kind do nothing on their own. -/
  | noCall (kind : String)
  /-- An element of a sequence of texts is of a kind. -/
  | noTextAt (place : Nat) (kind : String)
  /-- A value is none for a table of numbers. -/
  | noEntry (shown : String)
  /-- A seed is no whole number. -/
  | noSeed (shown : String)
  /-- A text stands where a table of numbers is needed. -/
  | textEntry (shown : String) (length : Nat)
  /-- Places of a table are not numbers of a kind. -/
  | noPlace (kind : String)
  /-- A whole row stands where one number is needed. -/
  | notSingle (dimensions : Nat)
  /-- A row of conditions has no single answer. -/
  | manyAnswers
  /-- A row without conditions has no answer. -/
  | noAnswers
  /-- The ends of a range are no places. -/
  | noRange
  /-- A number does not fit a byte. -/
  | notByte (v : Int)
  /-- A number does not fit half a word. -/
  | notHalfWord (v : Int)
  /-- A name is no text. -/
  | noName (kind : String)
deriving DecidableEq, Repr

/-- The wording of a problem with a value. -/
def ValueProblem.message : ValueProblem → String
  | noFormat letter kind =>
    "Unknown format code '" ++ letter.toString ++ "' for object of type '" ++ kind ++ "'"
  | plainOnly kind => "unsupported format string passed to " ++ kind ++ ".__format__"
  | noGroups => "Cannot specify ',' with 's'."
  | noOperation sign left right =>
    "unsupported operand type(s) for " ++ sign ++ ": '" ++ left ++ "' and '" ++ right ++ "'"
  | noSign kind => "bad operand type for unary -: '" ++ kind ++ "'"
  | noMagnitude kind => "bad operand type for abs(): '" ++ kind ++ "'"
  | noLength kind => "object of type '" ++ kind ++ "' has no len()"
  | byZero division => division ++ " by zero"
  | quotientTooLarge => "integer division result too large for a float"
  | noOrder sign left right =>
    "'" ++ sign ++ "' not supported between instances of '" ++ left ++ "' and '" ++ right ++ "'"
  | noJoin kind other =>
    "can only concatenate " ++ kind ++ " (not \"" ++ other ++ "\") to " ++ kind
  | lacks kind property => "'" ++ kind ++ "' object has no attribute '" ++ property ++ "'"
  | tooLargeForFloat => "int too large to convert to float"
  | noWhole kind =>
    "int() argument must be a string, a bytes-like object or a real number, not '" ++ kind ++ "'"
  | noNumeral base shown =>
    "invalid literal for int() with base " ++ toString base ++ ": " ++ shown
  | noHex place => "non-hexadecimal number found in fromhex() arg at position " ++ toString place
  | noRepeat kind => "can't multiply sequence by non-int of type '" ++ kind ++ "'"
  | tooManyDigits count =>
    "Exceeds the limit (4300 digits) for integer string conversion: value has " ++ toString count
      ++ " digits; use sys.set_int_max_str_digits() to increase the limit"
  | wholeOfNone => "cannot convert float NaN to integer"
  | wholeOfInfinity => "cannot convert float infinity to integer"
  | noCount kind => "'" ++ kind ++ "' object cannot be interpreted as an integer"
  | noSize => "an integer is required"
  | noElements kind => "'" ++ kind ++ "' object is not iterable"
  | noMembers kind => "argument of type '" ++ kind ++ "' is not iterable"
  | noPart kind => "'in <string>' requires string as left operand, not " ++ kind
  | noSlice kind => "'" ++ kind ++ "' object is not subscriptable"
  | textPlace => "string indices must be integers, not 'str'"
  | noTablePlace =>
    "only integers, slices (\x60:\x60), ellipsis (\x60...\x60), numpy.newaxis (\x60None\x60) "
      ++ "and integer or boolean arrays are valid indices"
  | outsideTable column width =>
    "index " ++ toString column ++ " is out of bounds for axis 0 with size " ++ toString width
  | noKey kind => "unhashable type: '" ++ kind ++ "'"
  | tooFew wanted got =>
    "not enough values to unpack (expected " ++ toString wanted ++ ", got " ++ toString got ++ ")"
  | tooMany wanted => "too many values to unpack (expected " ++ toString wanted ++ ")"
  | noParts kind => "cannot unpack non-iterable " ++ kind ++ " object"
  | noText kind => "fromhex() argument must be str, not " ++ kind
  | noBytes kind => "cannot convert '" ++ kind ++ "' object to bytes"
  | textBytes => "string argument without an encoding"
  | negativeCount => "negative count"
  | noCall kind => "'" ++ kind ++ "' object is not callable"
  | noTextAt place kind =>
    "sequence item " ++ toString place ++ ": expected str instance, " ++ kind ++ " found"
  | noEntry shown => shown ++ " is not a valid value for jnp.array"
  | noSeed shown => "PRNG key seed must be an integer; got " ++ shown
  | textEntry shown length =>
    "Value " ++ shown ++ " with dtype <U" ++ toString length
      ++ " is not a valid JAX array type. Only arrays of numeric types are supported by JAX."
  | noPlace kind =>
    "Indexer must have integer or boolean type, got indexer with type " ++ kind
  | notSingle dimensions =>
    "Only scalar arrays can be converted to Python scalars; got arr.ndim=" ++ toString dimensions
  | manyAnswers =>
    "The truth value of an array with more than one element is ambiguous. "
      ++ "Use a.any() or a.all()"
  | noAnswers =>
    "The truth value of an empty array is ambiguous. "
      ++ "Use \x60array.size > 0\x60 to check that an array is not empty."
  | noRange => "slice indices must be integers or None or have an __index__ method"
  | notByte v => Text.notByte v
  | notHalfWord v =>
    if fitsWord v then "Python int " ++ toString v ++ " too large to convert to int32"
    else tooLargeForWord
  | noName kind => "attribute name must be string, not '" ++ kind ++ "'"

namespace Value

/-- The whole number of a value that a message writes in the way that a
letter stands for. -/
def asWhole (v : Value) (letter : Char) : Except ValueProblem Int :=
  match v with
  | .whole n => .ok n
  | .flag b => .ok (if b then 1 else 0)
  | .float _ | .text _ => .error (.noFormat letter v.kind)
  | _ => .error (.plainOnly v.kind)

/-- The text of a value that has to be one, because its letters are needed. -/
def asText (v : Value) (property : String) : Except ValueProblem String :=
  match v with
  | .text s => .ok s
  | v => .error (.lacks v.kind property)

end Value

/-- The largest whole number that rounds to a double, and a half of the last
step more. -/
def floatLimit : Nat := Nat.pow 2 1024 - Nat.pow 2 970

/-- The double nearest to a whole number. A number half a step or more above
the largest double has none. -/
def floatOfWhole (v : Int) : Except ValueProblem Float :=
  if floatLimit ≤ v.natAbs then .error .tooLargeForFloat else .ok (Float.ofInt v)

end Chip8.Text
