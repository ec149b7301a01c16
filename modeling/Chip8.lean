-- The whole library.
import Chip8.Arithmetic
import Chip8.Console
import Chip8.Cycle
import Chip8.Fault
import Chip8.File.Disk
import Chip8.File.Path
import Chip8.Instruction.Basic
import Chip8.Instruction.Encoding
import Chip8.Instruction.Text
import Chip8.Journal.Logger
import Chip8.Journal.Notice
import Chip8.Journal.Registry
import Chip8.Journal.Request
import Chip8.Journal.RunLog
import Chip8.Keypad.Any
import Chip8.Keypad.Basic
import Chip8.Keypad.Buffer
import Chip8.Keypad.Device
import Chip8.Keypad.Keyboard
import Chip8.Keypad.Listener
import Chip8.Keypad.Request
import Chip8.Keypad.Symbol
import Chip8.Keypad.Terminal
import Chip8.Keypad.Value
import Chip8.Machine.Basic
import Chip8.Machine.CallStack
import Chip8.Machine.Font
import Chip8.Picture.File
import Chip8.Picture.Format
import Chip8.Picture.Image
import Chip8.Picture.Request
import Chip8.Picture.Resized
import Chip8.Random.Request
import Chip8.Random.Source
import Chip8.Refusal
import Chip8.Request.Console
import Chip8.Request.Effect
import Chip8.Request.Fault
import Chip8.Request.Instruction
import Chip8.Request.Signature
import Chip8.Request.Values
import Chip8.Request.Words
import Chip8.Run.Meter
import Chip8.Run.Progress
import Chip8.Run.Runner
import Chip8.Screen.Any
import Chip8.Screen.Basic
import Chip8.Screen.Canvas
import Chip8.Screen.Grid
import Chip8.Screen.Panel
import Chip8.Screen.Request
import Chip8.Screen.Room
import Chip8.Session.Bench
import Chip8.Session.Config
import Chip8.Session.Desk
import Chip8.Session.Formula.Grammar
import Chip8.Session.Formula.Problem
import Chip8.Session.Formula.Scan
import Chip8.Session.Formula.Simple
import Chip8.Session.Formula.Source
import Chip8.Session.Formula.Token
import Chip8.Session.Formula.Tree
import Chip8.Session.Formula.Value
import Chip8.Session.Play
import Chip8.Session.Problem
import Chip8.Session.Setting
import Chip8.Session.Watch
import Chip8.Text.Binary64
import Chip8.Text.Blank
import Chip8.Text.Capital
import Chip8.Text.Cased
import Chip8.Text.Conversion
import Chip8.Text.Figure
import Chip8.Text.HexBytes
import Chip8.Text.Number
import Chip8.Text.Numeral
import Chip8.Text.Placeholder
import Chip8.Text.Problem
import Chip8.Text.Quoted
import Chip8.Text.Shortest
import Chip8.Text.Small
import Chip8.Text.Template
import Chip8.Text.Value
import Chip8.Time.Basic
import Chip8.Word
import Chip8.Main
import Chip8.Proofs.Fields
import Chip8.Proofs.Decoding
import Chip8.Proofs.Outcome
import Chip8.Proofs.Run
import Chip8.Proofs.CallStack
import Chip8.Proofs.Calls
import Chip8.Proofs.Subroutine
import Chip8.Proofs.Bounds
import Chip8.Proofs.Replay
import Chip8.Proofs.Failure
import Chip8.Proofs.Atomicity
import Chip8.Proofs.Footprint
import Chip8.Proofs.RegisterArithmetic
import Chip8.Proofs.SavedRegisters
import Chip8.Proofs.Sprite
import Chip8.Proofs.Drawing
import Chip8.Proofs.Blit
import Chip8.Proofs.BufferCalls
import Chip8.Proofs.EagerBuffer
import Chip8.Proofs.Delivery
import Chip8.Proofs.KeyboardCalls
import Chip8.Proofs.KeySession
import Chip8.Proofs.Instant
import Chip8.Proofs.Waiting
import Chip8.Proofs.KeyWait
import Chip8.Proofs.OnGrid
import Chip8.Proofs.Window
import Chip8.Proofs.Timers
import Chip8.Proofs.History
import Chip8.Proofs.Pacing
import Chip8.Proofs.Canvas
import Chip8.Proofs.Showing
import Chip8.Proofs.Indistinct
import Chip8.Proofs.Runners
import Chip8.Proofs.Font
import Chip8.Proofs.Reset
import Chip8.Proofs.KeyCodes
import Chip8.Proofs.Loggers
import Chip8.Proofs.Deeds
import Chip8.Proofs.Countdown
import Chip8.Proofs.Loading
import Chip8.Proofs.RandomBytes
import Chip8.Proofs.Room
import Chip8.Proofs.Rendering
import Chip8.Proofs.WordBits
import Chip8.Proofs.Reach
import Chip8.Proofs.TypedKeys
