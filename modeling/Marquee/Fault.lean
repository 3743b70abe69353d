/-! Everything that can be wrong with the arguments of a command. A command is checked whole
before its first byte is produced, so a fault always means that nothing was encoded. -/

namespace Marquee

inductive Fault
  | time
  | date
  | dayOfWeek
  | sequence
  | descriptor
  | address
  | label
  /-- A label outside the printable range. -/
  | unprintable
  /-- The priority message is no file of its own. -/
  | priorityFile
  /-- A label that strings cannot carry. -/
  | stringLabel
  | fileSize
  | stringSize
  /-- A function that takes one argument was given some other number of them. -/
  | arity (got : Nat)
  | unknownSetting
  | unknownSignType
  deriving DecidableEq

def Fault.message : Fault → String
  | .time => "time must be in the format HH:MM (24-hour clock)"
  | .date => "date must be in the format MM/DD/YY"
  | .dayOfWeek => "day of week must be a number from 1 to 7 (1=Sunday, 2=Monday, ...)"
  | .sequence => "sequence must be 3-130 characters of A-Z, a-z and 0-9"
  | .descriptor =>
    "file descriptor must be type[label,size_in_bytes] such as s[A,125]; " ++
      "type is 's' for string or 't' for text"
  | .address => "address must be two characters, each 0-9, A-F or ?"
  | .label => "label must be a single character"
  | .unprintable => "label must be in the range 0x20 through 0x7E"
  | .priorityFile => "file 0 is the priority message and cannot be configured"
  | .stringLabel => "strings cannot use the labels 0 or ?"
  | .fileSize => "file size cannot exceed 65535 bytes"
  | .stringSize => "string files cannot be larger than 125 bytes"
  | .arity got => "expected 1 data argument(s) for this function, got " ++ got.repr
  | .unknownSetting => "mode is not one of settime, setdate, setday, setsequence"
  | .unknownSignType => "unknown sign type"

end Marquee
