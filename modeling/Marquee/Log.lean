/-! What a run says of itself while it goes on. -/

namespace Marquee

inductive Level
  | error
  | warn
  | info
  | debug
  | trace
  deriving DecidableEq

namespace Level

/-- Zero is for silence. -/
def rank : Level → Nat
  | .error => 1
  | .warn => 2
  | .info => 3
  | .debug => 4
  | .trace => 5

def name : Level → String
  | .error => "ERROR"
  | .warn => "WARN"
  | .info => "INFO"
  | .debug => "DEBUG"
  | .trace => "TRACE"

end Level

/-- The part of the program that speaks. -/
inductive Source
  | program
  | settings
  | delivery
  | link
  deriving DecidableEq

/-- The path by which a filter can single the part out. -/
def Source.path : Source → String
  | .program => "betabrite"
  | .settings => "betabrite::config::loader"
  | .delivery => "betabrite::deliver"
  | .link => "betabrite_hal_usb::writer"

structure Entry where
  level : Level
  source : Source
  message : String
  deriving DecidableEq

/-- Characters that a terminal obeys are shown by their numbers. -/
def Entry.shown (char : Char) : List Char :=
  match char with
  | '\x07' => ['\\', 'x', '0', '7']
  | '\x08' => ['\\', 'x', '0', '8']
  | '\x0C' => ['\\', 'x', '0', 'c']
  | '\x1B' => ['\\', 'x', '1', 'b']
  | '\x7F' => ['\\', 'x', '7', 'f']
  | char =>
    if '\u0080' ≤ char ∧ char ≤ '\u009F' then
      ['\\', 'u', '\x7B'] ++ Nat.toDigits 16 char.toNat ++ ['\x7D']
    else [char]

def Entry.line (entry : Entry) : String :=
  entry.level.name ++ " " ++ String.ofList (entry.message.toList.flatMap shown)

end Marquee
