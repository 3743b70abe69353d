/-! Bytes on the line, and the control bytes that give a transmission its shape. -/

namespace Marquee

abbrev Bytes := List UInt8

namespace Wire

def nul : UInt8 := 0x00
def soh : UInt8 := 0x01
def stx : UInt8 := 0x02
def eot : UInt8 := 0x04

/-- Opens a block of animated text. -/
def som : UInt8 := 0x1B

/-- A sign needs this many NUL bytes in a row to wake up and lock onto the line speed. -/
def wakeupLength : Nat := 5

def wakeup : Bytes := List.replicate wakeupLength nul

end Wire

/-- The UTF-8 form of a text, one character after the other. -/
def utf8 (text : String) : Bytes :=
  text.toList.flatMap String.utf8EncodeChar

theorem utf8_append (first second : String) :
    utf8 (first ++ second) = utf8 first ++ utf8 second := by
  simp [utf8]

end Marquee
