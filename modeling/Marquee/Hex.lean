import Marquee.Wire

/-! Base sixteen: as bytes inside a payload, as text in a dump, and in the name of a device. -/

namespace Marquee.Hex

/-- The digit of a value below sixteen. -/
def digit (value : Nat) : Char :=
  if value < 10 then Char.ofNat (48 + value) else Char.ofNat (55 + value)

def pair (byte : UInt8) : List Char := [digit (byte.toNat / 16), digit (byte.toNat % 16)]

/-- Four digits, the most significant one first. -/
def word (value : UInt16) : Bytes :=
  [value.toNat / 4096, value.toNat / 256 % 16, value.toNat / 16 % 16, value.toNat % 16].map
    fun nibble => (digit nibble).toUInt8

/-- The same four digits as text, in lower case. -/
def lower (value : UInt16) : String :=
  String.ofList ((word value).map fun digit => (Char.ofUInt8 digit).toLower)

/-- A pair of digits for each byte, and a space between two pairs. -/
def dump (bytes : Bytes) : String :=
  String.ofList ([' '].intercalate (bytes.map pair))

end Marquee.Hex
