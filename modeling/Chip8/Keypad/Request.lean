-- Keyboards, keypads and listeners as requests describe them, and what is done
-- with them on request.
import Chip8.Keypad.Any
import Chip8.Keypad.Listener
import Chip8.Keypad.Value
import Chip8.Request.Values
namespace Chip8

open Text

/-- A keyboard whose keys may be values of any kind. -/
abbrev ValueKeyboard := Keyboard Value Float

/-! ## Events -/

/-- The code of a key of a window. What is no whole number is the code of no
key. -/
def codeOf (v : Value) : Int := (KeyCode.number? v).getD (-1)

namespace KeyEvent

/-- The event that a request describes. -/
def ofRequest? (request : Value) : Option (KeyEvent Value) :=
  match request.field? "key", request.field? "keydown", request.field? "keyup" with
  | some key, _, _ => some (.press key)
  | none, some code, _ => some (.window (.keyDown (codeOf code)))
  | none, none, some code => some (.window (.keyUp (codeOf code)))
  | none, none, none =>
    if (request.field? "stop").isSome then some .close
    else if (request.field? "quit").isSome then some (.window .quit)
    else none

/-- The events that requests describe, with the times when they are due. -/
def scheduleOf (requests : Value) : List (Float × KeyEvent Value) :=
  Keyboard.schedule (requests.elements.filterMap fun request => do
    return (← (request.field "at").float?, ← ofRequest? request))

end KeyEvent

/-! ## Keyboards -/

/-- The time that a request gives, or none where it says so. -/
def timeOf (request : Value) (name : String) (otherwise : Float) : Option Float :=
  match request.field? name with
  | none => some otherwise
  | some v => v.float?

/-- A span of time from now on. -/
def spanOf (v : Value) : Except ValueProblem Float :=
  match v.number? with
  | some n => n.double
  | none => .error (.noOperation "+" "float" v.kind)

/-- The number of keys that a request lets a buffer hold. -/
def capacityOf (request : Value) : Except Refusal (Option Int) :=
  match request.field? "maxsize" with
  | none => .ok (some 16)
  | some .none => .ok none
  | some v =>
    match v.whole? with
    | some n => .ok (some n)
    | none => .error (.value .noSize)

/-- How long keys stay fresh by default. -/
def defaultTimeout : Float := 0.25

/-- The empty key buffer of a request. -/
def KeyBuffer.ofRequest (request : Value) : Except Refusal (KeyBuffer Value Float) := do
  KeyBuffer.ofCapacity ((timeOf request "timeout" defaultTimeout).getD (1 / 0))
    (← capacityOf request)

/-- A keyboard that is used by hand. A time that is no number cannot be
compared with the age of a key. -/
structure TriedKeyboard where
  keyboard : ValueKeyboard
  /-- What is wrong with the time that keys stay fresh. -/
  problem : Option ValueProblem

namespace TriedKeyboard

/-- What is wrong with a value that tells how long keys stay fresh. -/
def problemOf (timeout : Value) : Option ValueProblem :=
  if timeout.number?.isSome then none else some (.noOrder "<" "float" timeout.kind)

def ofRequest (request : Value) (now : Float) : Except Refusal TriedKeyboard := do
  let keyboard := Keyboard.idle now (← KeyBuffer.ofRequest request)
  let timeout := fieldOr request "timeout" (.float defaultTimeout)
  return { keyboard :=
             { keyboard with pending := KeyEvent.scheduleOf (request.field "events") }
           problem := problemOf timeout }

/-- What is done on a request: its answer, and the keyboard after it. -/
abbrev Response := Except Refusal Value × TriedKeyboard

/-- Uses the buffer, if the age of its keys can be told. -/
def useBuffer (t : TriedKeyboard)
    (act : KeyBuffer Value Float → Float → Value × KeyBuffer Value Float) : Response :=
  match t.problem, t.keyboard.buffer.presses with
  | some p, _ :: _ => (.error (.value p), t)
  | _, _ =>
    let (answer, buffer) := act t.keyboard.buffer t.keyboard.now
    (.ok answer, { t with keyboard := { t.keyboard with buffer } })

/-- How long a wait may take. Nothing stands for no end. -/
def patienceOf : Value → Except ValueProblem (Option Float)
  | .none => .ok none
  | v => (spanOf v).map some

/-- Takes the oldest key, or waits for one. -/
def popWithin (t : TriedKeyboard) (timeout : Value) : Response :=
  match patienceOf timeout, t.problem, t.keyboard.buffer.presses with
  | .error p, _, _ => (.error (.value p), t)
  | .ok _, some p, _ :: _ => (.error (.value p), t)
  | .ok span, problem, _ =>
    match t.keyboard.popWithin Keyboard.pass span, problem with
    | (.key key, k), none => (.ok key, { t with keyboard := k })
    | (.key key, k), some p =>
      -- the age of the key that arrived cannot be told, so it stays
      let presses := ⟨key, k.now⟩ :: k.buffer.presses
      (.error (.value p), { t with keyboard := { k with buffer := { k.buffer with presses } } })
    | (.timedOut, k), _ => (.ok .none, { t with keyboard := k })
    | (.endless, k), _ => (.error (.fault .endlessWait), { t with keyboard := k })

/-- Does with the keyboard what a request says. -/
def perform (t : TriedKeyboard) (name : String) (given : Option Value) : Response :=
  let needed (act : Value → Response) : Response :=
    match given with
    | some v => act v
    | none => (.error .noElement, t)
  match name with
  | "push" => needed fun key => t.useBuffer fun b now => (.none, b.push now key)
  | "peek" => t.useBuffer fun b now => let (key, b) := b.peek now; (key.getD .none, b)
  | "pop" => t.useBuffer fun b now => let (key, b) := b.pop now; (key.getD .none, b)
  | "len" => t.useBuffer fun b now => let (n, b) := b.size now; (.whole n, b)
  | "clear" =>
    (.ok .none, { t with keyboard := { t.keyboard with buffer := t.keyboard.buffer.clear } })
  | "pop_blocking" => t.popWithin (given.getD .none)
  | "advance" => needed fun span =>
    match spanOf span with
    | .ok span => (.ok .none, { t with keyboard := t.keyboard.advance span })
    | .error p => (.error (.value p), t)
  | "set_timeout" => needed fun timeout =>
    let buffer := { t.keyboard.buffer with timeout := timeout.float?.getD (1 / 0) }
    (.ok .none, ⟨{ t.keyboard with buffer }, problemOf timeout⟩)
  | _ => (.ok .none, t)

end TriedKeyboard

/-! ## Keypads -/

/-- The keypad of a request, with what will happen at it. -/
def AnyKeypad.ofRequest (request : Value) (now : Float)
    (pending : List (Float × KeyEvent Value)) : Except Refusal (AnyKeypad Value Float) := do
  let keyboard : ValueKeyboard := { Keyboard.idle now ⟨defaultTimeout, none, []⟩ with pending }
  let buffered : Except Refusal ValueKeyboard := do
    return { keyboard with buffer := ← KeyBuffer.ofRequest request }
  match (request.field "kind").text? with
  | some "constant" => return .held keyboard (← needed request "key")
  | some "buffered" =>
    let closable := !(request.field "no_stop").truth
    return .buffered { keyboard := ← buffered, closable, poll := timeOf request "poll" 0.1 }
  | some "pygame" =>
    return .window { keyboard := ← buffered, poll := timeOf request "poll" 0.02 }
  | _ => return .silent keyboard

/-! ## Listeners -/

/-- A listener whose keys, raw ones among them, may be values of any kind. -/
abbrev ValueListener := Listener Value Value Float

namespace ValueListener

/-- What a reading gives, as a request describes it. -/
def readingOf (request : Value) : Reading Value Float :=
  match request.field? "advance", request.field? "raise" with
  | some span, _ =>
    match spanOf span with
    | .ok span => .pause span
    | .error p => .failure ("TypeError(" ++ quoted p.message ++ ")")
  | none, some words => .failure ("OSError(" ++ words.nested ++ ")")
  | none, none =>
    match request with
    | .none => .nothing
    | raw => .key raw

/-- The readings that requests describe. -/
def readingsOf (requests : Value) : List (Reading Value Float) := requests.elements.map readingOf

def ofRequest (request : Value) (now : Float) : Except Refusal ValueListener := do
  let quitKeys := fieldOr request "quit_keys" (.list [])
  return { keyboard := Keyboard.idle now (← KeyBuffer.ofRequest request)
           isQuit := quitKeys.holds
           stopped := false
           running := false
           readings := readingsOf (request.field "keys")
           journal := [] }

/-- What is done on a request: its answer, and the listener after it. -/
abbrev Response := Except Refusal Value × ValueListener

/-- Starts the listener and lets it end. What goes wrong while it listens is
not answered. -/
def started (l : ValueListener) (next : ValueListener → ValueListener) : Response :=
  match l.start with
  | (.ok (), l) => (.ok .none, next l)
  | (.error r, l) => (.error r, l)

def keypad (l : ValueListener) (poll : Option Float) : BufferedKeypad Value Float :=
  { keyboard := l.keyboard, closable := true, poll }

/-- Does with the listener, or the keypad on its buffer, what a request says. -/
def perform (l : ValueListener) (poll : Option Float) (name : String) (given : Option Value) :
    Response :=
  let k := l.keyboard
  match name with
  | "listen" =>
    let (answer, l) := l.listen
    ((ofValue answer).map fun _ => .none, l)
  | "start" => started l fun l => l.listen.2
  | "stop" => (.ok .none, Listener.stop l)
  | "with" => started l fun l => Listener.stop l.listen.2
  | "rearm" => (.ok .none, l.rearm (readingsOf (given.getD .none)))
  | "wait" =>
    let (key, b) := (l.keypad poll).waitOrClose
    let l := { l with keyboard := b.keyboard }.tell (.waitingForKey .listener)
    (key.mapError .fault, l)
  | "peek" =>
    let (key, b) := (l.keypad poll).peek
    (.ok (key.getD .none), { l with keyboard := b.keyboard })
  | "pop" =>
    let (key, buffer) := k.buffer.pop k.now
    (.ok (key.getD .none), { l with keyboard := { k with buffer } })
  | "advance" =>
    match spanOf (given.getD .none) with
    | .ok span => (.ok .none, { l with keyboard := k.advance span })
    | .error p => (.error (.value p), l)
  | _ => (.ok .none, l)

end ValueListener

end Chip8
