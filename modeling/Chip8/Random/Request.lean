-- Sources of random bytes by requests: a list of values, or a seed.
import Chip8.Random.Source
import Chip8.Text.Conversion
import Chip8.Request.Values
namespace Chip8

/-- A loop of the lowest bytes of some values. -/
def ByteLoop.ofValue (values : Text.Value) : Except Refusal ByteLoop := do
  let elements ← Chip8.ofValue values.toElements
  ByteLoop.ofList (← elements.mapM fun v => Chip8.ofValue v.toWhole)

/-- A generator from a seed, which is a whole number. -/
def Splitting.ofValue (seed : Text.Value) : Except Refusal Splitting :=
  match seed with
  | .whole n => Splitting.ofSeed n
  | .flag b => Splitting.ofSeed (if b then 1 else 0)
  | .text s => .error (.value (.textEntry (Text.quoted s) s.length))
  | .none => .error (.value (.noEntry seed.shown))
  | v => .error (.value (.noSeed v.shown))

/-- The source of a request. -/
def AnyRandom.ofRequest (request : Text.Value) : Except Refusal AnyRandom :=
  if (request.field "kind").text? = some "seq" then do
    return .loop (← ByteLoop.ofValue (← needed request "values"))
  else (Splitting.ofValue (fieldOr request "seed" (.whole 0))).map .splitting

/-- The next bytes of a source. -/
def AnyRandom.takeValue (count : Text.Value) (r : AnyRandom) : Except Refusal (List UInt8) := do
  return RandomSource.take (← Chip8.ofValue count.toCount).toNat r

end Chip8
