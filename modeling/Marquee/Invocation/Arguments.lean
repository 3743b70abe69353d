import Marquee.Invocation
import Marquee.Text.Decimal

/-! Reading a command line. Words are taken from left to right and the first thing wrong ends the
reading, with one exception: the value of an option that follows it as a word of its own is only
looked at when the next option, switch or piece of data comes along. A word that nobody understands
is reported before that. -/

namespace Marquee

inductive UsageFault
  | missingArgument
  | unknownArgument
  /-- No value, an empty path, or none of the choices. -/
  | invalidValue
  /-- Not a number. -/
  | malformedValue
  /-- Given twice. -/
  | conflict
  /-- A value for a switch. -/
  | needlessValue
  deriving DecidableEq

/-- Why the reading ended before there was an invocation. -/
inductive Stop
  | help
  | version
  | fault (fault : UsageFault)
  deriving DecidableEq

namespace Arguments

inductive Switch
  | raw
  | runSequence
  | clear
  | reset
  | dump
  deriving DecidableEq

inductive Parameter
  | mode
  | label
  | address
  | signType
  | delay
  | config
  deriving DecidableEq

inductive Name
  | switch (switch : Switch)
  | parameter (parameter : Parameter)
  | verbose
  | help
  | version
  deriving DecidableEq

def ofLong? : String → Option Name
  | "raw" => some (.switch .raw)
  | "runseq" => some (.switch .runSequence)
  | "clear" => some (.switch .clear)
  | "reset" => some (.switch .reset)
  | "dump" => some (.switch .dump)
  | "mode" => some (.parameter .mode)
  | "label" => some (.parameter .label)
  | "address" => some (.parameter .address)
  | "sign-type" => some (.parameter .signType)
  | "delay-us" => some (.parameter .delay)
  | "config" => some (.parameter .config)
  | "verbose" => some .verbose
  | "help" => some .help
  | "version" => some .version
  | _ => none

def ofShort? : Char → Option Name
  | 'c' => some (.parameter .config)
  | 'v' => some .verbose
  | 'h' => some .help
  | 'V' => some .version
  | _ => none

structure Reading where
  invocation : Invocation := {}
  /-- Switches and options that were given, none of which may be given again. -/
  given : List Name := []
  /-- An option that was named last, with its value if that has come. -/
  pending : Option (Parameter × Option String) := none
  /-- After two dashes all words are data. -/
  plain : Bool := false

def mostVerbose : Nat := 255

def turnOn (invocation : Invocation) : Switch → Invocation
  | .raw => { invocation with raw := true }
  | .runSequence => { invocation with runSequence := true }
  | .clear => { invocation with clear := true }
  | .reset => { invocation with reset := true }
  | .dump => { invocation with dump := true }

def assign (invocation : Invocation) (value : String) : Parameter → Except Stop Invocation
  | .mode =>
    match Content.ofName? value with
    | some content => .ok { invocation with content }
    | none => .error (.fault .invalidValue)
  | .label => .ok { invocation with label := value }
  | .address =>
    .ok { invocation with overrides := { invocation.overrides with address := some value } }
  | .signType =>
    .ok { invocation with overrides := { invocation.overrides with signType := some value } }
  | .delay =>
    match Text.naturalUpTo? 0xFFFFFFFFFFFFFFFF value with
    | some delay =>
      let delay := some delay.toUInt64
      .ok { invocation with overrides := { invocation.overrides with delay } }
    | none => .error (.fault .malformedValue)
  | .config =>
    if value.isEmpty then .error (.fault .invalidValue)
    else .ok { invocation with config := some value }

namespace Reading

/-- Notes that something is given that may be given once. -/
def once (reading : Reading) (name : Name) : Except Stop Reading :=
  if name ∈ reading.given then .error (.fault .conflict)
  else .ok { reading with given := name :: reading.given }

def receive (reading : Reading) (parameter : Parameter) (value : String) : Except Stop Reading := do
  let reading ← reading.once (.parameter parameter)
  return { reading with invocation := ← assign reading.invocation value parameter }

/-- Looks at the value that is still pending. -/
def settle (reading : Reading) : Except Stop Reading :=
  match reading.pending with
  | none => .ok reading
  | some (_, none) => .error (.fault .invalidValue)
  | some (parameter, some value) => { reading with pending := none }.receive parameter value

/-- A name without a value of its own. -/
def name (reading : Reading) (name : Name) : Except Stop Reading := do
  let reading ← reading.settle
  match name with
  | .switch switch =>
    let reading ← reading.once name
    return { reading with invocation := turnOn reading.invocation switch }
  | .parameter parameter => return { reading with pending := some (parameter, none) }
  | .verbose =>
    let invocation := reading.invocation
    let verbosity := min (invocation.verbosity + 1) mostVerbose
    return { reading with invocation := { invocation with verbosity } }
  | .help => .error .help
  | .version => .error .version

/-- A word that starts with two dashes, without them. -/
def long (reading : Reading) (word : List Char) : Except Stop Reading :=
  let named := ofLong? (String.ofList (word.takeWhile (· != '=')))
  match named, word.dropWhile (· != '=') with
  | none, _ => .error (.fault .unknownArgument)
  | some name, [] => reading.name name
  | some (.parameter parameter), _ :: value => do
    (← reading.settle).receive parameter (String.ofList value)
  | some _, _ :: _ => .error (.fault .needlessValue)

def withoutEquals : List Char → List Char
  | '=' :: value => value
  | value => value

/-- A word that starts with one dash, without it. What follows the letter of an option is its
value. -/
def short (reading : Reading) : List Char → Except Stop Reading
  | [] => .ok reading
  | letter :: rest =>
    match ofShort? letter with
    | none => .error (.fault .unknownArgument)
    | some (.parameter parameter) =>
      if rest.isEmpty then reading.name (.parameter parameter)
      else do (← reading.settle).receive parameter (String.ofList (withoutEquals rest))
    | some name => do (← reading.name name).short rest

def datum (reading : Reading) (word : String) : Except Stop Reading := do
  let reading ← reading.settle
  let invocation := reading.invocation
  return { reading with invocation := { invocation with data := invocation.data ++ [word] } }

/-- A single dash is a word like any other. -/
def word (reading : Reading) (word : String) : Except Stop Reading :=
  if reading.plain then reading.datum word
  else match word.toList, reading.pending with
    | ['-', '-'], _ => .ok { reading with plain := true }
    | '-' :: '-' :: rest, _ => reading.long rest
    | '-' :: letter :: rest, _ => reading.short (letter :: rest)
    | _, some (parameter, none) => .ok { reading with pending := some (parameter, some word) }
    | _, _ => reading.datum word

/-- What is missing is only noticed at the end. -/
def finish (reading : Reading) : Except Stop Invocation := do
  let invocation := (← reading.settle).invocation
  if invocation.data.isEmpty && invocation.needsData then .error (.fault .missingArgument)
  else return invocation

end Reading
end Arguments

def Invocation.parse (words : List String) : Except Stop Invocation := do
  (← words.foldlM Arguments.Reading.word {}).finish

end Marquee
