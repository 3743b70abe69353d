import Marquee.Config.Document
import Marquee.Frame
import Marquee.Invocation
import Marquee.Link.Transport
import Marquee.Log

/-! One run, from an understood command line to the frame on the link. Settings, addresses and
arguments are all checked before a link is opened, and the first thing wrong ends the run. -/

namespace Marquee

inductive Failure
  | loading (fault : ConfigFault)
  | settings (fault : ConfigFault)
  | building (fault : BuildFault)
  | delivery (fault : LinkFault)
  deriving DecidableEq

def Failure.chain : Failure → List String
  | .loading fault => "failed to load configuration" :: fault.chain
  | .settings fault => fault.chain
  | .building fault => fault.chain
  | .delivery fault => "failed to send frame to sign" :: fault.chain

/-- The world outside, as far as a run depends on it. -/
structure Host (σ : Type) where
  read : String → Except IoFault Bytes
  /-- A link to the target, as it is before its first byte. -/
  connect : Target → Except LinkFault σ
  link : Link σ LinkFault

/-- A checked run, ready to be shown or sent. -/
structure Job where
  settings : Settings
  action : Action
  command : Command

namespace Job

def frame (job : Job) : Bytes :=
  (Frame.ofCommand job.settings.address job.settings.signType job.command).wire

def announcement (job : Job) : Entry :=
  let length := job.frame.length
  ⟨.debug, .delivery, "sending " ++ length.repr ++ " byte frame (at least " ++
    (job.settings.pacing.minDuration length).toNat.repr ++ " us)"⟩

def confirmation (job : Job) : List Entry := [
  ⟨.debug, .delivery, "frame delivered"⟩,
  ⟨.info, .program, job.action.title ++ " sent (" ++ job.frame.length.repr ++ " bytes)"⟩]

end Job

def Target.opening : Target → List Entry
  | .serial path => [⟨.info, .link, "opened sign link " ++ path⟩]
  | _ => []

def Step.entry? : Step → Option Entry
  | .write data => some ⟨.trace, .link, "wrote " ++ data.length.repr ++ " bytes"⟩
  | _ => none

namespace Session

/-- The file that is read if none is asked for. -/
def defaultPath : String := "betabrite.toml"

/-- A settings file that nobody asked for need not be there. -/
def load (asked : Option String) (found : Except IoFault Bytes) :
    List Entry × Except ConfigFault Config :=
  let path := asked.getD defaultPath
  match found, asked with
  | .ok bytes, _ =>
    match String.fromUTF8? (ByteArray.mk bytes.toArray) with
    | some document =>
      ([⟨.info, .settings, "loaded configuration from " ++ path⟩], Config.parse document)
    | none => ([], .error (.unreadable path .notText))
  | .error .notFound, none =>
    ([⟨.debug, .settings, path ++ " not found, using embedded defaults"⟩], .ok {})
  | .error fault, _ => ([], .error (.unreadable path fault))

def prepare (invocation : Invocation) (config : Config) : Except Failure Job := do
  let settings ← (config.resolve invocation.overrides).mapError .settings
  let command ← (invocation.command settings.charset).mapError .building
  return ⟨settings, invocation.action, command⟩

/-- What is left to do once everything is checked. -/
inductive Plan
  | print (text : String)
  | deliver (job : Job)

def plan (invocation : Invocation) (found : Except IoFault Bytes) :
    List Entry × Except Failure Plan :=
  let (logs, loaded) := load invocation.config found
  (logs, do
    let job ← prepare invocation (← loaded.mapError .loading)
    return if invocation.dump then .print (Hex.dump job.frame ++ "\n") else .deliver job)

def path (invocation : Invocation) : String := invocation.config.getD defaultPath

structure Outcome (σ : Type) where
  failure : Option Failure := none
  printed : String := ""
  logs : List Entry := []
  /-- Where a link was opened, and what became of the frame on it. -/
  sent : Option (Target × Sent σ LinkFault) := none

variable {σ : Type}

/-- What the run tells the shell. -/
def Outcome.exit (outcome : Outcome σ) : Nat := if outcome.failure.isSome then 1 else 0

def deliver (host : Host σ) (job : Job) : Outcome σ :=
  match host.connect job.settings.target with
  | .error fault => { failure := some (.delivery fault) }
  | .ok state =>
    let sent := host.link.send job.settings.pacing job.frame state
    let logs := job.settings.target.opening ++ job.announcement :: sent.done.filterMap Step.entry?
    let delivered := some (job.settings.target, sent)
    match sent.result with
    | .error fault => { failure := some (.delivery fault), logs, sent := delivered }
    | .ok () => { logs := logs ++ job.confirmation, sent := delivered }

def run (host : Host σ) (invocation : Invocation) : Outcome σ :=
  let (logs, planned) := plan invocation (host.read (path invocation))
  match planned with
  | .error failure => { failure := some failure, logs }
  | .ok (.print text) => { printed := text, logs }
  | .ok (.deliver job) =>
    let outcome := deliver host job
    { outcome with logs := logs ++ outcome.logs }

end Session
end Marquee
