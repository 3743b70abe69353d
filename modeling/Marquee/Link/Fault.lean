import Marquee.Hex

/-! What can go wrong between the program and the outside: files, devices and the bytes they
take. -/

namespace Marquee

inductive IoFault
  | notFound
  | isDirectory
  | notDirectory
  | nameTooLong
  | noSpace
  /-- No name holds a NUL. -/
  | nulInName
  /-- A text file that is not UTF-8. -/
  | notText
  /-- The receiver took nothing of what was left to write. -/
  | tookNothing
  | other (reason : String)
  deriving DecidableEq

def IoFault.message : IoFault → String
  | .notFound => "No such file or directory (os error 2)"
  | .isDirectory => "Is a directory (os error 21)"
  | .notDirectory => "Not a directory (os error 20)"
  | .nameTooLong => "File name too long (os error 36)"
  | .noSpace => "No space left on device (os error 28)"
  | .nulInName => "file name contained an unexpected NUL byte"
  | .notText => "stream did not contain valid UTF-8"
  | .tookNothing => "failed to write whole buffer"
  | .other reason => reason

inductive LinkFault
  | deviceNotFound (vendor product : UInt16)
  | noOutEndpoint
  | io (fault : IoFault)
  | shortWrite (written expected : Nat)
  deriving DecidableEq

namespace LinkFault

def message : LinkFault → String
  | .deviceNotFound vendor product =>
    "sign not found (USB " ++ Hex.lower vendor ++ ":" ++ Hex.lower product ++ ")"
  | .noOutEndpoint => "sign has no OUT endpoint"
  | .io fault => "I/O error: " ++ fault.message
  | .shortWrite written expected =>
    "short write: " ++ written.repr ++ " of " ++ expected.repr ++ " bytes"

/-- The message, and the fault it is about if there is one. -/
def chain : LinkFault → List String
  | .io fault => [(LinkFault.io fault).message, fault.message]
  | fault => [fault.message]

end LinkFault
end Marquee
