-- What goes wrong with the settings of a session, and the words for it.
import Chip8.Session.Formula.Problem
import Chip8.Text.Placeholder
namespace Chip8

/-- Why a value does not suit a setting. -/
inductive Misfit where
  /-- There is no value where one is needed; the setting takes values of a kind. -/
  | absent (wanted : String)
  /-- A value of a kind stands for no number. -/
  | noNumber (shown kind wanted : String)
  /-- A value of a kind has no text. -/
  | noText (shown kind : String)
  /-- A whole number is above every double. -/
  | tooLarge
deriving DecidableEq, Repr

namespace Misfit

/-- The wording of a misfit. -/
def message : Misfit → String
  | absent wanted => "Incompatible value 'None' for field of type '" ++ wanted ++ "'"
  | noNumber shown kind wanted =>
    "Value '" ++ shown ++ "' of type '" ++ kind ++ "' could not be converted to " ++ wanted
  | noText shown kind => "Cannot convert '" ++ kind ++ "' to string: '" ++ shown ++ "'"
  | tooLarge => Text.ValueProblem.tooLargeForFloat.message

/-- The misfit of a value that messages call by another kind. -/
def withKind (kind : String) : Misfit → Misfit
  | noNumber shown _ wanted => noNumber shown kind wanted
  | noText shown _ => noText shown kind
  | m => m

end Misfit

/-- Why a setting has no value. -/
inductive SettingProblem where
  /-- It was given a value that does not suit it. -/
  | misfit (m : Misfit)
  /-- It has to be given. -/
  | missing
  /-- It was given a formula that cannot be read. -/
  | unreadable (formula words : String)
  /-- Its formula has no value. -/
  | formula (problem : Formula.Problem)
  /-- The value of its formula, with its kind, does not suit it. -/
  | formulaMisfit (formula shown kind : String) (m : Misfit)
deriving DecidableEq, Repr

namespace SettingProblem

/-- What placeholders stand for in messages on the setting of a name and a
value with its kind. -/
def known (name shown kind : String) : List (String × String) := [
  ("KEY", name), ("FULL_KEY", name), ("KEY_TYPE", "str"), ("VALUE", shown), ("VALUE_TYPE", kind),
  ("OBJECT_TYPE", "RunConfig"), ("REF_TYPE", "Any")]

/-- The words for a problem with the setting of a name. Placeholders are also
seen in the texts that messages cite. -/
def words (name : String) : SettingProblem → String
  | misfit m => m.message
  | missing => "Missing mandatory value: " ++ name
  | unreadable text words => Text.filled (known name text "str") words
  | formula problem => Text.filled (known name "None" "NoneType") problem.message
  | formulaMisfit text shown kind m =>
    "While dereferencing interpolation '" ++ Text.filled (known name shown kind) text
      ++ "': " ++ m.message

/-- The wording of a problem with the setting of a name. -/
def message (name : String) (p : SettingProblem) : String :=
  p.words name ++ "\n    full_key: " ++ name ++ "\n    object_type=RunConfig"

end SettingProblem

end Chip8
