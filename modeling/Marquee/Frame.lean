import Marquee.Address
import Marquee.Command
import Marquee.SignType

/-! One transmission: the wake-up run, a header that says who should listen, and a payload that
ends at the first EOT. -/

namespace Marquee

structure Frame where
  address : Address
  signType : SignType
  payload : Bytes
  deriving DecidableEq

namespace Frame

/-- The payload is sent as it is. One that holds an EOT ends the transmission early. -/
def wire (frame : Frame) : Bytes :=
  Wire.wakeup ++ Wire.soh :: frame.signType.byte :: frame.address.bytes ++
    Wire.stx :: frame.payload ++ [Wire.eot]

def ofCommand (address : Address) (signType : SignType) (command : Command) : Frame :=
  ⟨address, signType, command.payload⟩

def broadcast (command : Command) : Frame := ofCommand .broadcast .allSigns command

end Frame
end Marquee
