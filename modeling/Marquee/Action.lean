import Marquee.Memory
import Marquee.Message.Compiler
import Marquee.Setting
import Marquee.Text.Quoted

/-! The one thing that the program does in a run, and the command it comes to. Each kind of content
has an encoder of its own, and what that encoder does not take does not matter. -/

namespace Marquee

open Message (Charset)

/-- What the data on the command line is. -/
inductive Content
  | text
  | string
  | setting (setting : Setting)
  | memory
  deriving DecidableEq

namespace Content

def name : Content → String
  | .text => "text"
  | .string => "string"
  | .setting s => s.name
  | .memory => "cfgmem"

def every : List Content := [.text, .string] ++ Setting.every.map .setting ++ [.memory]

theorem mem_every (content : Content) : content ∈ every := by
  cases content with
  | setting s => simp [every, Setting.mem_every s]
  | _ => simp [every]

def ofName? (name : String) : Option Content := every.find? (·.name == name)

def title : Content → String
  | .text => "Text"
  | .string => "String"
  | .setting .time => "SetTime"
  | .setting .date => "SetDate"
  | .setting .dayOfWeek => "SetDay"
  | .setting .sequence => "SetSequence"
  | .memory => "CfgMem"

end Content

inductive Action
  | clear
  | resumeSequence
  | softReset
  | raw
  | encode (content : Content)
  deriving DecidableEq

/-- Why an action comes to no command. -/
inductive BuildFault
  | raw (fault : Fault)
  | label (text : String) (fault : Fault)
  | memory (misfit : Memory.Misfit)
  | setting (setting : Setting) (fault : Fault)
  deriving DecidableEq

/-- What was being done, then what was wrong with it. -/
def BuildFault.chain : BuildFault → List String
  | .raw fault => ["raw needs at least one data argument", fault.message]
  | .label text fault => ["invalid label " ++ Text.quoted text, fault.message]
  | .memory misfit => ["invalid memory configuration", misfit.message, misfit.fault.message]
  | .setting s fault => ["invalid " ++ s.name ++ " data", fault.message]

namespace Action

def title : Action → String
  | .clear => "Clear"
  | .resumeSequence => "ResumeSequence"
  | .softReset => "SoftReset"
  | .raw => "Raw"
  | .encode content => "Encode(" ++ content.title ++ ")"

def command (action : Action) (label : String) (data : List String) (charset : Charset) :
    Except BuildFault Command :=
  match action with
  | .clear => .ok Memory.clear
  | .resumeSequence => .ok .resumeSequence
  | .softReset => .ok .softReset
  | .raw => (Command.ofFragments data).mapError .raw
  | .encode .text => do
    let file ← (Label.parse label).mapError (.label label)
    return Message.compileMessage charset.table file data
  | .encode .string => do
    let file ← (Label.parse label).mapError (.label label)
    return .storeString file data
  | .encode .memory => (Memory.configure data).mapError .memory
  | .encode (.setting s) => (s.encode data).mapError (.setting s)

end Action
end Marquee
