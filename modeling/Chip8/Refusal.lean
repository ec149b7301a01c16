-- What the library refuses to build or to show, and the words for it.
import Chip8.Fault
import Chip8.Request.Signature
import Chip8.Session.Problem
import Chip8.Text.Figure
import Chip8.Text.Problem
import Chip8.Text.Quoted
import Chip8.Text.Template
namespace Chip8

/-! ## Files -/

/-- Why a path leads to no file. -/
inductive FileProblem where
  /-- Nothing has the name. -/
  | missing
  /-- A file stands on the way. -/
  | notFolder
  /-- A folder stands where a file is asked for. -/
  | isFolder
  /-- A name, or the whole path, has too many bytes. -/
  | nameTooLong
deriving DecidableEq, Repr

namespace FileProblem

def number : FileProblem → Nat
  | missing => 2
  | notFolder => 20
  | isFolder => 21
  | nameTooLong => 36

def words : FileProblem → String
  | missing => "No such file or directory"
  | notFolder => "Not a directory"
  | isFolder => "Is a directory"
  | nameTooLong => "File name too long"

/-- The wording of a problem with a path. -/
def message (p : FileProblem) (path : String) : String :=
  "[Errno " ++ toString p.number ++ "] " ++ p.words ++ ": " ++ Text.quoted path

end FileProblem

/-! ## Pictures -/

/-- Why a picture was not saved, or cannot be read back. -/
inductive PictureProblem where
  /-- The ending of the file names no format. -/
  | unknownEnding (ending : String)
  /-- The format can only be read. -/
  | readOnly (format : String)
  /-- The format has no colours. -/
  | noColors (format : String)
  /-- The format takes compressed textures only. -/
  | noTexture
  /-- The part that writes the format is not there. -/
  | noWriter (format : String)
  /-- The picture has no pixels. -/
  | empty
  /-- The picture has no pixels, as a format with a writer of its own says it. -/
  | emptyIn (words : String)
  /-- There is no room for a frame without pixels. -/
  | noFrame
  /-- The file holds no picture that can be read. -/
  | unreadable (file : String)
  /-- The file is a program that nothing here can run. -/
  | noInterpreter
deriving DecidableEq, Repr

/-- The wording of a problem with a picture. -/
def PictureProblem.message : PictureProblem → String
  | unknownEnding ending => "unknown file extension: " ++ ending
  | readOnly format => Text.quoted format
  | noColors format => "cannot write mode RGB as " ++ format
  | noTexture => "Unsupported BLP image mode"
  | noWriter format => format ++ " save handler not installed"
  | empty => "cannot write empty image"
  | emptyIn words => words
  | noFrame => "can't allocate picture frame"
  | unreadable file => "cannot identify image file " ++ Text.quoted file
  | noInterpreter => "Unable to locate Ghostscript on paths"

/-! ## Refusals -/

/-- Why a request was refused. -/
inductive Refusal where
  /-- A screen has a negative side. -/
  | negativeSize
  /-- A side of a screen does not fit 64 bits. -/
  | sideTooLarge
  /-- The pixels of a screen cannot be counted in 64 bits. -/
  | tooManyPixels
  /-- There is no room for a table of that many bytes. -/
  | noRoom (sides : List Int) (bytes : Nat) (cell : String)
  /-- A key buffer would hold fewer than no keys. -/
  | negativeCapacity
  /-- The capacity of a key buffer does not fit 64 bits. -/
  | capacityTooLarge
  /-- A loop of random bytes is empty. -/
  | noRandomValues
  /-- A seed or the scale of a picture does not fit 64 bits. -/
  | tooLargeForWord
  /-- A program has an element that is not a byte. -/
  | notBytes
  /-- There is no room for that many zeros. -/
  | noZeros
  /-- A file cannot be opened. -/
  | file (problem : FileProblem) (path : String)
  /-- The text of a path holds a zero character. -/
  | zeroInPath
  /-- A colour component is not a byte. -/
  | componentNotByte (value : Int)
  /-- Two colours have different numbers of components, and neither has one. -/
  | componentsDiffer (rows columns lit unlit : Nat)
  /-- A colour scheme has no such name. -/
  | unknownScheme (name : String)
  /-- A picture cannot be saved. -/
  | picture (problem : PictureProblem)
  /-- A window would have negative sides. -/
  | negativeWindow
  /-- The sides of a window cannot be counted. -/
  | uncountedWindow
  /-- A window would have sides that no window has. -/
  | windowTooLarge
  /-- A rate is zero. -/
  | zeroRate
  /-- A log level has no such name. -/
  | unknownLevel (name : String)
  /-- A frontend has no such name. -/
  | unknownFrontend (name : String)
  /-- A terminal is smaller than the picture; the texts show its size. -/
  | terminalTooSmall (columns rows : String) (neededColumns neededRows : Int)
  /-- A setting has no value. -/
  | setting (name : String) (problem : SettingProblem)
  /-- No setting has the name. -/
  | unknownSetting (name : String)
  /-- The number of a setting is above every double. -/
  | settingTooLarge
  /-- The values given with a request do not suit it. -/
  | request (title : String) (problem : RequestProblem)
  /-- A value is of the wrong kind. -/
  | value (problem : Text.ValueProblem)
  /-- A template cannot be filled. -/
  | template (problem : Text.TemplateProblem)
  /-- A request lacks a field. -/
  | noField (name : String)
  /-- A request has too few elements. -/
  | noElement
  /-- A part of the library has nothing of a name. -/
  | unknownIn (part name : String)
  /-- A request led to a fault. -/
  | fault (f : Fault)
  /-- An operand, which the text shows, is no number that fits. -/
  | operandMisfit (instruction : String) (operand : Operand) (shown : String)
  /-- An instruction has no operands that could be checked. -/
  | noOperands
  /-- Some of the bytes at an address are outside memory; the text shows their number. -/
  | outsideMemory (address : Int) (length : String)
  /-- A progress that is not shown has no description. -/
  | hiddenProgress
  /-- A progress has no such options; the text shows them. -/
  | unknownOptions (shown : String)
  /-- An option of a progress is out of use. -/
  | nestedOption
  /-- A listener runs already. -/
  | listenerRunning
deriving DecidableEq, Repr

namespace Refusal

/-- Names between quotes in square brackets. -/
def choices (names : List String) : String :=
  "[" ++ String.intercalate ", " (names.map Text.quoted) ++ "]"

/-- The names of the log levels, the least urgent first. -/
def levelNames : List String := ["DEBUG", "INFO", "WARNING", "ERROR", "CRITICAL"]

/-- The names of the colour schemes. -/
def schemeNames : List String := ["classic", "amber", "white", "blue", "retro"]

def frontendNames : List String := ["pygame", "terminal", "headless"]

/-- The wording of a refusal. -/
def message : Refusal → String
  | negativeSize => "negative dimensions are not allowed"
  | sideTooLarge => "Maximum allowed dimension exceeded"
  | tooManyPixels =>
    "array is too big; `arr.size * arr.dtype.itemsize` is larger than the maximum possible size."
  | noRoom sides bytes cell =>
    "Unable to allocate " ++ Text.amount bytes ++ " for an array with shape ("
      ++ String.intercalate ", " (sides.map toString) ++ ") and data type " ++ cell
  | negativeCapacity => "maxlen must be non-negative"
  | capacityTooLarge => "Python int too large to convert to C ssize_t"
  | noRandomValues => "SequenceRandomSource needs at least one value"
  | tooLargeForWord => Text.tooLargeForWord
  | notBytes => "bytes must be in range(0, 256)"
  | noZeros => ""
  | file problem path => problem.message path
  | zeroInPath => "embedded null byte"
  | componentNotByte v => Text.notByte v
  | componentsDiffer rows columns lit unlit =>
    "operands could not be broadcast together with shapes (" ++ toString rows ++ ","
      ++ toString columns ++ ",1) (" ++ toString lit ++ ",) (" ++ toString unlit ++ ",) "
  | unknownScheme name =>
    "Unknown color scheme '" ++ name ++ "'. Available: " ++ choices schemeNames
  | picture problem => problem.message
  | negativeWindow => "Cannot set negative sized display mode"
  | uncountedWindow => "size must be two numbers"
  | windowTooLarge => "Window is too large."
  | zeroRate => "float division by zero"
  | unknownLevel name => "Unknown log level '" ++ name ++ "'. Available: " ++ choices levelNames
  | unknownFrontend name =>
    "Unknown frontend '" ++ name ++ "'. Available: " ++ choices frontendNames
  | terminalTooSmall columns rows neededColumns neededRows =>
    "Terminal is " ++ columns ++ "x" ++ rows ++ ", need at least "
      ++ toString neededColumns ++ "x" ++ toString neededRows
  | setting name problem => problem.message name
  | unknownSetting name => RequestProblem.message "RunConfig.__init__" (.unexpected name)
  | settingTooLarge =>
    Text.ValueProblem.tooLargeForFloat.message ++ "\n    full_key: \n    object_type=None"
  | request title problem => problem.message title
  | value problem => problem.message
  | template problem => problem.message
  | noField name => Text.quoted name
  | noElement => "list index out of range"
  | unknownIn part name => "module '" ++ part ++ "' has no attribute '" ++ name ++ "'"
  | fault f => f.message
  | operandMisfit instruction operand shown => Fault.misfitText instruction operand shown
  | noOperands => "must be called with a dataclass type or instance"
  | outsideMemory address length => Fault.outsideText address length
  | hiddenProgress => "'tqdm' object has no attribute 'desc'"
  | unknownOptions shown => Text.quoted ("Unknown argument(s): " ++ shown)
  | nestedOption =>
    "`nested` is deprecated and automated.\nUse `position` instead for manual control.\n"
  | listenerRunning => "KeyListener already started"

end Refusal

end Chip8
