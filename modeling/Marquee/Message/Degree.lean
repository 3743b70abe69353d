import Marquee.Wire

/-! Every sign has a degree sign, so it is sent as the sign's own code whatever the rest of the text
is encoded in. It is recognised by its two bytes of UTF-8, and the buffer closes up in place. -/

namespace Marquee.Message.Degree

/-- The code of the degree sign on a sign. -/
def code : UInt8 := 0xA9

def lead : UInt8 := 0xC2
def trail : UInt8 := 0xB0

/-- One cursor reads and one writes. The writer never passes the reader, so it never touches a byte
that has yet to be read. -/
def close (buffer : Array UInt8) (read write : Nat) (behind : write ≤ read) : Array UInt8 :=
  if inside : read < buffer.size then
    if buffer[read] = lead ∧ buffer[read + 1]? = some trail then
      close (buffer.set write code (by omega)) (read + 2) (write + 1) (by omega)
    else close (buffer.set write buffer[read] (by omega)) (read + 1) (write + 1) (by omega)
  else buffer.take write
termination_by buffer.size - read

/-- What stands before the start stays as it is. -/
def collapse (start : Nat) (buffer : Bytes) : Bytes :=
  (close buffer.toArray start start (Nat.le_refl start)).toList

end Marquee.Message.Degree
