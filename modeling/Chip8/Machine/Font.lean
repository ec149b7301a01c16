-- The font: a sprite of five rows for each hexadecimal digit, at the start of
-- memory.
import Chip8.Machine.Basic
namespace Chip8

/-- Where the font starts in memory. -/
def fontStart : Nat := 0

/-- The number of bytes of a glyph. -/
def glyphSize : Nat := 5

/-- The glyphs of the digits 0 to F. -/
def fontData : List UInt8 := [
  0xF0, 0x90, 0x90, 0x90, 0xF0,
  0x20, 0x60, 0x20, 0x20, 0x70,
  0xF0, 0x10, 0xF0, 0x80, 0xF0,
  0xF0, 0x10, 0xF0, 0x10, 0xF0,
  0x90, 0x90, 0xF0, 0x10, 0x10,
  0xF0, 0x80, 0xF0, 0x10, 0xF0,
  0xF0, 0x80, 0xF0, 0x90, 0xF0,
  0xF0, 0x10, 0x20, 0x40, 0x40,
  0xF0, 0x90, 0xF0, 0x90, 0xF0,
  0xF0, 0x90, 0xF0, 0x10, 0xF0,
  0xF0, 0x90, 0xF0, 0x90, 0x90,
  0xE0, 0x90, 0xE0, 0x90, 0xE0,
  0xF0, 0x80, 0x80, 0x80, 0xF0,
  0xE0, 0x90, 0x90, 0x90, 0xE0,
  0xF0, 0x80, 0xF0, 0x80, 0xF0,
  0xF0, 0x80, 0xF0, 0x80, 0x80]

namespace Machine

/-- The machine at power-on: the font in memory, everything else zero, and
the program counter where programs start. -/
def initial : Machine :=
  { memory := overlay (Vector.replicate memorySize 0) fontStart fontData
    registers := Vector.replicate registerCount 0
    index := 0
    pc := programStart.toUInt16
    stack := .empty
    delay := 0
    sound := 0 }

/-- The machine with a program in memory. What does not fit is left out. -/
def load (m : Machine) (program : List UInt8) : Machine :=
  m.writeBytes programStart (program.take maxProgramSize)

end Machine

end Chip8
