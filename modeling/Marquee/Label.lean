import Marquee.Fault
import Marquee.Wire

/-! Labels name the files in a sign's memory, one printable character each. -/

namespace Marquee

structure Label where
  byte : UInt8
  printable : 0x20 ≤ byte ∧ byte ≤ 0x7E
  deriving DecidableEq

namespace Label

/-- The text file that preempts the run sequence until it is replaced. -/
def priority : Label := ⟨'0'.toUInt8, by decide⟩

def isPriority (label : Label) : Bool := label == priority

def ofByte (byte : UInt8) : Except Fault Label :=
  if printable : 0x20 ≤ byte ∧ byte ≤ 0x7E then .ok ⟨byte, printable⟩ else .error .unprintable

/-- A character beyond one byte is no more printable to a sign than a control byte. -/
def ofChar (char : Char) : Except Fault Label :=
  if char.toNat < 256 then ofByte char.toUInt8 else .error .unprintable

/-- Reads a text that holds exactly one character. -/
def parse (text : String) : Except Fault Label :=
  match text.toList with
  | [char] => ofChar char
  | _ => .error .label

end Label
end Marquee
