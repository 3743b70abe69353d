import Marquee.Frame

/-! A sign reads the line one byte at a time and knows a transmission by its shape alone. Bytes
before the header are noise unless they are the NULs that lead up to it, and after a frame or a
fault the receiver knows nothing of what came before. -/

namespace Marquee

inductive FrameFault
  /-- A header without enough NULs right before it. -/
  | shortWakeup
  /-- Something else where the text should start. -/
  | invalidFrame
  | unknownSignType
  /-- The bytes ran out before the frame did. -/
  | incomplete
  deriving DecidableEq

namespace Receiver

inductive Answer
  | more
  | frame (frame : Frame)
  | fault (fault : FrameFault)
  deriving DecidableEq

inductive Stage
  | header
  | signType
  | address (signType : SignType) (high : Option UInt8)
  | text (signType : SignType) (address : Address)
  /-- The payload so far, its latest byte first. -/
  | payload (signType : SignType) (address : Address) (latest : Bytes)
  deriving DecidableEq

end Receiver

structure Receiver where
  /-- The NULs in a row that led to this stage. -/
  nuls : Nat := 0
  stage : Receiver.Stage := .header
  deriving DecidableEq

namespace Receiver

/-- Nothing has been heard yet. -/
def idle : Receiver := {}

/-- Whatever was heard is forgotten. -/
def reset (_ : Receiver) : Receiver := idle

def feed (receiver : Receiver) (byte : UInt8) : Answer × Receiver :=
  match receiver.stage with
  | .header =>
    if byte = Wire.nul then (.more, { receiver with nuls := receiver.nuls + 1 })
    else if byte = Wire.soh then
      if Wire.wakeupLength ≤ receiver.nuls then (.more, { receiver with stage := .signType })
      else (.fault .shortWakeup, idle)
    else (.more, idle)
  | .signType =>
    match SignType.ofByte? byte with
    | some signType => (.more, { receiver with stage := .address signType none })
    | none => (.fault .unknownSignType, idle)
  | .address signType none => (.more, { receiver with stage := .address signType (some byte) })
  | .address signType (some high) => (.more, { receiver with stage := .text signType ⟨high, byte⟩ })
  | .text signType address =>
    if byte = Wire.stx then (.more, { receiver with stage := .payload signType address [] })
    else (.fault .invalidFrame, idle)
  | .payload signType address latest =>
    if byte = Wire.eot then (.frame ⟨address, signType, latest.reverse⟩, idle)
    else (.more, { receiver with stage := .payload signType address (byte :: latest) })

/-- The answers to all bytes, one each, and the receiver after them. -/
def listen (receiver : Receiver) : Bytes → List Answer × Receiver
  | [] => ([], receiver)
  | byte :: rest =>
    let (answer, next) := receiver.feed byte
    let (answers, last) := next.listen rest
    (answer :: answers, last)

theorem listen_append (receiver : Receiver) (first second : Bytes) :
    receiver.listen (first ++ second) =
      ((receiver.listen first).1 ++ ((receiver.listen first).2.listen second).1,
        ((receiver.listen first).2.listen second).2) := by
  induction first generalizing receiver with
  | nil => rfl
  | cons byte rest ih => simp only [List.cons_append, listen, ih]

/-- Stops at the first frame or fault and leaves the rest of the bytes unheard. -/
def feedBytes (receiver : Receiver) : Bytes → Answer × Receiver
  | [] => (.more, receiver)
  | byte :: rest =>
    match receiver.feed byte with
    | (.more, next) => next.feedBytes rest
    | event => event

end Receiver

/-- The first frame in the bytes, if nothing goes wrong before it. -/
def Frame.decode (bytes : Bytes) : Except FrameFault Frame :=
  match (Receiver.idle.feedBytes bytes).1 with
  | .frame frame => .ok frame
  | .fault fault => .error fault
  | .more => .error .incomplete

end Marquee
