import Marquee.Action
import Marquee.Config

/-! A command line that was understood. -/

namespace Marquee

structure Invocation where
  content : Content := .text
  label : String := "A"
  raw : Bool := false
  runSequence : Bool := false
  clear : Bool := false
  reset : Bool := false
  /-- Show the frame and send nothing. -/
  dump : Bool := false
  overrides : Overrides := {}
  /-- The settings file that was asked for. -/
  config : Option String := none
  verbosity : Nat := 0
  data : List String := []

namespace Invocation

/-- Of several actions the first in this order wins, and each of them wins over the content. -/
def action (invocation : Invocation) : Action :=
  if invocation.clear then .clear
  else if invocation.runSequence then .resumeSequence
  else if invocation.reset then .softReset
  else if invocation.raw then .raw
  else .encode invocation.content

/-- Only these actions do without data. -/
def needsData (invocation : Invocation) : Bool :=
  !(invocation.clear || invocation.runSequence || invocation.reset)

def command (invocation : Invocation) (charset : Message.Charset) : Except BuildFault Command :=
  invocation.action.command invocation.label invocation.data charset

end Invocation
end Marquee
