import Marquee.Address
import Marquee.Link.Fault
import Marquee.Link.Pacing
import Marquee.Message.Glyph
import Marquee.SignType

/-! Where a frame goes, to whom it is addressed, and how fast. A settings file says so, the command
line may overrule it, and the result is checked before any command is encoded. -/

namespace Marquee

open Message (Charset)

inductive LinkKind
  | usb
  | serial
  | stdout
  deriving DecidableEq

namespace Config

structure SignSection where
  address : String := "00"
  signType : String := "all"
  charset : Charset := .utf8

structure LinkSection where
  kind : LinkKind := .usb
  vendor : UInt16 := 0x8765
  product : UInt16 := 0x1234
  /-- The device of a serial sign. -/
  path : Option String := none
  /-- Microseconds between two bytes. -/
  delay : UInt64 := 1000

end Config

/-- A settings file. What it leaves out has its default. -/
structure Config where
  sign : Config.SignSection := {}
  link : Config.LinkSection := {}

/-- What the command line says in place of the file. -/
structure Overrides where
  address : Option String := none
  signType : Option String := none
  delay : Option UInt64 := none

inductive Target
  | usb (vendor product : UInt16)
  | serial (path : String)
  | stdout
  deriving DecidableEq

structure Settings where
  address : Address
  signType : SignType
  charset : Charset
  target : Target
  pacing : Pacing
  deriving DecidableEq

inductive ConfigFault
  | unreadable (path : String) (fault : IoFault)
  /-- Not TOML, or not a settings file. -/
  | malformed
  | address (fault : Fault)
  | signType (fault : Fault)
  | noSerialPath
  deriving DecidableEq

namespace ConfigFault

def reason : String := "the document is not a table of known settings"

def message : ConfigFault → String
  | .unreadable path fault => "failed to read " ++ path ++ ": " ++ fault.message
  | .malformed => "invalid TOML: " ++ reason
  | .address fault => "invalid sign address: " ++ fault.message
  | .signType fault => "invalid sign type: " ++ fault.message
  | .noSerialPath => "link kind \x22serial\x22 needs a path"

/-- The message, and the fault it is about where that is worth a line of its own. -/
def chain (fault : ConfigFault) : List String :=
  match fault with
  | .unreadable _ io => [fault.message, io.message]
  | .malformed => [fault.message, reason]
  | _ => [fault.message]

end ConfigFault

namespace Config

def target (link : LinkSection) : Except ConfigFault Target :=
  match link.kind, link.path with
  | .usb, _ => .ok (.usb link.vendor link.product)
  | .serial, some path => .ok (.serial path)
  | .serial, none => .error .noSerialPath
  | .stdout, _ => .ok .stdout

/-- The address is checked first, then the sign type, then the link. What is overruled is not
checked at all. -/
def resolve (config : Config) (overrides : Overrides) : Except ConfigFault Settings := do
  let address ← (Address.parse (overrides.address.getD config.sign.address)).mapError .address
  let signType ← (SignType.parse (overrides.signType.getD config.sign.signType)).mapError .signType
  let target ← target config.link
  let pacing := { delay := overrides.delay.getD config.link.delay }
  return ⟨address, signType, config.sign.charset, target, pacing⟩

end Config
end Marquee
