import Marquee.Label
import Marquee.Style

/-! What a sign is told to do, and the payload that tells it. -/

namespace Marquee

inductive SpecialFunction
  | setTime
  | memoryConfig
  | setDay
  | softReset
  | setSequence
  | setDate
  deriving DecidableEq

namespace SpecialFunction

def byte : SpecialFunction → UInt8
  | .setTime => ' '.toUInt8
  | .memoryConfig => '$'.toUInt8
  | .setDay => '&'.toUInt8
  | .softReset => ','.toUInt8
  | .setSequence => '.'.toUInt8
  | .setDate => ';'.toUInt8

def every : List SpecialFunction :=
  [.setTime, .memoryConfig, .setDay, .softReset, .setSequence, .setDate]

theorem mem_every (function : SpecialFunction) : function ∈ every := by
  cases function <;> decide

def ofByte? (byte : UInt8) : Option SpecialFunction := every.find? (·.byte == byte)

end SpecialFunction

/-- A stretch of text in one style. The text is in the sign's own characters. -/
structure Block where
  style : Style
  text : Bytes
  deriving DecidableEq

def Block.wire (block : Block) : Bytes :=
  Wire.som :: block.style.code ++ block.text

inductive Command
  /-- Replaces a text file. -/
  | writeText (label : Label) (blocks : List Block)
  /-- Replaces a string file. -/
  | writeString (label : Label) (data : Bytes)
  | writeSpecial (function : SpecialFunction) (data : Bytes)
  /-- Payload bytes the caller answers for. -/
  | raw (data : Bytes)
  deriving DecidableEq

namespace Command

def payload : Command → Bytes
  | .writeText label blocks => 'A'.toUInt8 :: label.byte :: blocks.flatMap Block.wire
  | .writeString label data => 'G'.toUInt8 :: label.byte :: data
  | .writeSpecial function data => 'E'.toUInt8 :: function.byte :: data
  | .raw data => data

/-- An empty priority file lets a sign go back to its run sequence. -/
def resumeSequence : Command := .writeText .priority []

def softReset : Command := .writeSpecial .softReset []

/-- The fragments follow each other without a separator. -/
def joined (fragments : List String) : Bytes := fragments.flatMap utf8

/-- Strings are stored as they come, in UTF-8. -/
def storeString (label : Label) (fragments : List String) : Command :=
  .writeString label (joined fragments)

def ofFragments (fragments : List String) : Except Fault Command :=
  if fragments.isEmpty then .error (.arity 0) else .ok (.raw (joined fragments))

theorem ofFragments_eq_ok_iff {fragments : List String} {command : Command} :
    ofFragments fragments = .ok command ↔ fragments ≠ [] ∧ command = .raw (joined fragments) := by
  cases fragments with
  | nil => simp [ofFragments]
  | cons fragment rest => simp [ofFragments, eq_comm]

end Command
end Marquee
