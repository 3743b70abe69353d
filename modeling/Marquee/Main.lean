import Marquee.Program

/-! The command line program. Files and devices are the host's, and so is the time between two
writes. -/

namespace Marquee.Main

/-- A fault by the host's number for it, which may come with a minus sign. Those without a name here
are told in the host's own words. -/
def coded (code : UInt32) (reason : String) : IoFault :=
  match (if code < 0x80000000 then code else 0 - code).toNat with
  | 2 => .notFound
  | 20 => .notDirectory
  | 21 => .isDirectory
  | 28 => .noSpace
  | 36 => .nameTooLong
  | number => .other (reason.capitalize ++ " (os error " ++ number.repr ++ ")")

def ioFault : IO.Error → IoFault
  | .noFileOrDirectory _ code reason => coded code reason
  | .alreadyExists _ code reason => coded code reason
  | .interrupted _ code reason => coded code reason
  | .invalidArgument _ code reason => coded code reason
  | .permissionDenied _ code reason => coded code reason
  | .resourceExhausted _ code reason => coded code reason
  | .inappropriateType _ code reason => coded code reason
  | .noSuchThing _ code reason => coded code reason
  | .otherError code reason => coded code reason
  | .resourceBusy code reason => coded code reason
  | .resourceVanished code reason => coded code reason
  | .unsupportedOperation code reason => coded code reason
  | .hardwareFault code reason => coded code reason
  | .unsatisfiedConstraints code reason => coded code reason
  | .illegalOperation code reason => coded code reason
  | .protocolError code reason => coded code reason
  | .timeExpired code reason => coded code reason
  | .unexpectedEof => .other "unexpected end of file"
  | .userError reason => .other reason

def attempt {α : Type} (action : IO α) : IO (Except IoFault α) :=
  try return .ok (← action) catch error => return .error (ioFault error)

/-- Short rests are waited out on the clock, because sleep is too coarse for them. -/
partial def rest (instant : Nat) : IO Unit := do
  let now ← IO.monoNanosNow
  if now < instant then
    if 2000000000 < instant - now then IO.sleep 1000
    rest instant

def open? (target : Target) : IO (Except LinkFault IO.FS.Stream) := do
  match target with
  | .usb vendor product => return .error (.deviceNotFound vendor product)
  | .stdout => return .ok (← IO.getStdout)
  | .serial path =>
    if '\x00' ∈ path.toList then return .error (.io .nulInName)
    let handle ← attempt (IO.FS.Handle.mk path .readWrite)
    return (handle.map IO.FS.Stream.ofHandle).mapError .io

def perform (stream : IO.FS.Stream) : Step → IO (Except IoFault Unit)
  | .write data => attempt (stream.write (ByteArray.mk data.toArray))
  | .flush => attempt stream.flush
  | .pause micros => do
    rest ((← IO.monoNanosNow) + micros.toNat * 1000)
    return .ok ()

def say (filter : Filter) (entries : List Entry) : IO Unit :=
  (entries.filter filter.shows).forM fun entry => IO.eprintln entry.line

def fail (failure : Failure) : IO UInt32 := do
  IO.eprint (Report.render failure.chain)
  return 1

def deliver (filter : Filter) (job : Job) : IO UInt32 := do
  match ← open? job.settings.target with
  | .error fault => fail (.delivery fault)
  | .ok stream =>
    say filter (job.settings.target.opening ++ [job.announcement])
    for step in job.settings.pacing.schedule job.frame do
      match ← perform stream step with
      | .error fault => return ← fail (.delivery (.io fault))
      | .ok () => say filter step.entry?.toList
    say filter job.confirmation
    return 0

def run (invocation : Invocation) : IO UInt32 := do
  let filter := Filter.choose invocation.verbosity (← IO.getEnv "RUST_LOG")
  let found ← attempt (IO.FS.readBinFile (Session.path invocation))
  let (logs, planned) := Session.plan invocation (found.map (·.toList))
  say filter logs
  match planned with
  | .error failure => fail failure
  | .ok (.print text) => IO.print text; return 0
  | .ok (.deliver job) => deliver filter job

end Marquee.Main

def main (words : List String) : IO UInt32 := do
  match Marquee.Invocation.parse words with
  | .ok invocation => Marquee.Main.run invocation
  | .error stop =>
    IO.print stop.output
    if stop.exit ≠ 0 then IO.eprintln "error: the arguments were not understood, try --help"
    return stop.exit.toUInt32
