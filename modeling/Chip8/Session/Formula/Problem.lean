-- What goes wrong with formulas, and the words for it.
import Chip8.Request.Signature
import Chip8.Text.Problem
namespace Chip8.Formula

open Chip8.Text

/-- What goes wrong inside a term and is told with the kind of the mishap. -/
inductive Mishap where
  /-- A path leads through a setting that is no table. -/
  | noTable (path parent child : String)
  /-- A path leads out of the settings. -/
  | outside (path : String)
  /-- No setting is found for a source. -/
  | noSetting (key : String)
  /-- No setting is found that another one gave its place to. -/
  | noSuccessor (place key : String)
  /-- A setting that a source needs is missing. -/
  | missing (name : String)
  /-- A source was given values that do not suit its parameters. -/
  | request (source : String) (problem : RequestProblem)
  /-- A source was given too many values; it has other parameters beside. -/
  | tooMany (source : String) (given beside : Nat)
  /-- Only texts are read again. -/
  | notReadable (shown kind : String)
  /-- Only texts name what the surroundings hold. -/
  | noVariableName (kind : String)
  /-- The surroundings hold nothing of a name. -/
  | noVariable (name : String)
  /-- A key, or a message, of a setting out of use is no text. -/
  | successorKind (part kind : String)
  /-- The keys of a table are asked for by a text. -/
  | tableKey (source shown kind : String)
  /-- A value is no table. -/
  | tableKind (source kind : String)
  /-- Nothing is made of values of a kind. -/
  | noContainer (kind : String)
  /-- A value has no use for what is done with it. -/
  | value (problem : ValueProblem)
  /-- A text cannot be read. -/
  | unreadable (words : String)
  /-- A path has no keys at all. -/
  | noKeys
  /-- A text has nothing but a blank. -/
  | blank
  /-- A text for settings spells a single value. -/
  | single
  /-- A whole number is above every double. -/
  | tooLarge
  /-- A term leads back to itself. -/
  | endless
deriving DecidableEq, Repr

namespace Mishap

/-- The kind of a mishap, as it is told. -/
def title : Mishap → String
  | noTable .. => "ConfigTypeError"
  | outside _ | noSetting _ | noSuccessor .. => "ConfigKeyError"
  | missing _ => "MissingMandatoryValue"
  | request .. | tooMany .. | notReadable .. | noVariableName _ | successorKind .. | tableKey ..
  | tableKind .. => "TypeError"
  | noVariable _ => "KeyError"
  | noContainer _ => "ValidationError"
  | value (.lacks ..) => "AttributeError"
  | value (.tooManyDigits _) => "ValueError"
  | value _ => "TypeError"
  | unreadable _ => "GrammarParseError"
  | noKeys => "IndexError"
  | blank | single => "AssertionError"
  | tooLarge => "OverflowError"
  | endless => "RecursionError"

/-- The words for a mishap. -/
def message : Mishap → String
  | noTable path parent child =>
    "Error trying to access " ++ path ++ ": node \x60" ++ parent
      ++ "\x60 is not a container and thus cannot contain \x60" ++ child ++ "\x60"
  | outside path => "Error resolving key '" ++ path ++ "'"
  | noSetting key => "Key not found: '" ++ key ++ "'"
  | noSuccessor place key =>
    "In oc.deprecated resolver at '" ++ place ++ "': Key not found: '" ++ key ++ "'"
  | missing name => "Missing mandatory value: " ++ name
  | request source problem => problem.message source
  | tooMany source given beside =>
    source ++ "() takes from 1 to 2 positional arguments but " ++ toString given
      ++ " positional arguments (and " ++ toString beside ++ " keyword-only argument"
      ++ RequestProblem.plural beside ++ ") were given"
  | notReadable shown kind =>
    "\x60oc.decode\x60 can only take strings or None as input, but \x60" ++ shown
      ++ "\x60 is of type " ++ kind
  | noVariableName kind => "str expected, not " ++ kind
  | noVariable name => quoted ("Environment variable '" ++ name ++ "' not found")
  | successorKind part kind =>
    "oc.deprecated: interpolation " ++ part ++ " type is not a string (" ++ kind ++ ")"
  | tableKey source shown kind =>
    "\x60" ++ source ++ "\x60 requires a string as input, but obtained \x60" ++ shown
      ++ "\x60 of type: " ++ kind
  | tableKind source kind =>
    "\x60" ++ source ++ "\x60 cannot be applied to objects of type: " ++ kind
  | noContainer kind =>
    "Object of unsupported type: '" ++ kind ++ "'\n    full_key: \n    object_type=None"
  | value problem => problem.message
  | unreadable words => words
  | noKeys => "list index out of range"
  | blank => "WS should never be reached"
  | single => ""
  | tooLarge => ValueProblem.tooLargeForFloat.message
  | endless => "maximum recursion depth exceeded"

end Mishap

/-- Why a formula has no value. -/
inductive Problem where
  /-- Its text cannot be read. -/
  | unreadable (words : String)
  /-- A whole number is above every double. -/
  | tooLarge
  /-- It names a setting that is missing. -/
  | missing (name : String)
  /-- It names no setting. -/
  | unknown (key : String)
  /-- A path leads out of the settings. -/
  | outside (path : String)
  /-- It asks for a source of values that does not exist. -/
  | source (name : String)
  /-- It leads back to itself. -/
  | circular
  /-- It names all settings together, itself among them. -/
  | allSettings
  /-- A term that gives a key has no text as its value. -/
  | keyNoText (term shown kind : String)
  /-- A term that gives the name of a source has no text as its value. -/
  | nameNoText (term shown kind : String)
  /-- Something went wrong inside a term. -/
  | inside (mishap : Mishap)
deriving DecidableEq, Repr

namespace Problem

/-- The words for a problem. -/
def message : Problem → String
  | unreadable words => words
  | tooLarge => Mishap.tooLarge.message
  | missing name =>
    "MissingMandatoryValue while resolving interpolation: " ++ (Mishap.missing name).message
  | unknown key => "Interpolation key '" ++ key ++ "' not found"
  | outside path =>
    "ConfigKeyError while resolving interpolation: " ++ (Mishap.outside path).message
  | source name => "Unsupported interpolation type " ++ name
  | circular => "Recursive interpolation detected"
  | allSettings => "Interpolation to parent node detected"
  | keyNoText term shown kind =>
    "The following interpolation is used to denote a config key and thus should return a string, "
      ++ "but instead returned \x60" ++ shown ++ "\x60 of type \x60<class '" ++ kind ++ "'>\x60: "
      ++ term
  | nameNoText term shown kind =>
    "The name of a resolver must be a string, but the interpolation " ++ term
      ++ " resolved to \x60" ++ shown ++ "\x60 which is of type <class '" ++ kind ++ "'>"
  | inside mishap => mishap.title ++ " raised while resolving interpolation: " ++ mishap.message

/-- The problem of a formula as that of another one that needs its value. -/
def passedOn : Problem → Problem
  | unreadable words => inside (.unreadable words)
  | tooLarge => inside .tooLarge
  | p => p

end Problem

end Chip8.Formula
