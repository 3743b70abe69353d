import Marquee.Fault
import Marquee.Wire

/-! Two characters single out a sign on the line. A question mark stands for any digit, and 00
reaches every sign. -/

namespace Marquee

/-- Any two bytes can be put on the line. Only `Address.parse` promises digits and wildcards. -/
structure Address where
  high : UInt8
  low : UInt8
  deriving DecidableEq

namespace Address

def broadcast : Address := ⟨'0'.toUInt8, '0'.toUInt8⟩

def wildcard : UInt8 := '?'.toUInt8

def bytes (address : Address) : Bytes := [address.high, address.low]

def isWildcard (address : Address) : Bool := wildcard ∈ address.bytes

/-- A wildcard as it is, a hexadecimal digit in upper case, and nothing else. -/
def digit? (byte : UInt8) : Option UInt8 :=
  if byte = wildcard then some byte
  else if '0'.toUInt8 ≤ byte ∧ byte ≤ '9'.toUInt8 then some byte
  else if 'A'.toUInt8 ≤ byte ∧ byte ≤ 'F'.toUInt8 then some byte
  else if 'a'.toUInt8 ≤ byte ∧ byte ≤ 'f'.toUInt8 then some (byte - 0x20)
  else none

def parse (text : String) : Except Fault Address :=
  match utf8 text with
  | [high, low] =>
    match digit? high, digit? low with
    | some high, some low => .ok ⟨high, low⟩
    | _, _ => .error .address
  | _ => .error .address

theorem digit?_printable {byte digit : UInt8} (read : digit? byte = some digit) :
    0x20 ≤ digit := by
  unfold digit? at read
  split at read
  next question => cases read; subst question; decide
  split at read
  next decimal => cases read; exact UInt8.le_trans (by decide) decimal.1
  split at read
  next upper => cases read; exact UInt8.le_trans (by decide) upper.1
  split at read
  next lower =>
    cases read
    have bound : 97 ≤ byte.toNat := UInt8.le_iff_toNat_le.mp lower.1
    rw [UInt8.le_iff_toNat_le, UInt8.toNat_sub_of_le _ _ (UInt8.le_trans (by decide) lower.1)]
    change 32 ≤ byte.toNat - 32
    omega
  next => cases read

theorem parse_printable {text : String} {address : Address} (read : parse text = .ok address) :
    0x20 ≤ address.high ∧ 0x20 ≤ address.low := by
  unfold parse at read
  split at read
  next high low _ =>
    split at read
    next first second =>
      cases read
      exact ⟨digit?_printable first, digit?_printable second⟩
    next => cases read
  next => cases read

end Address
end Marquee
