import Marquee.Log
import Marquee.Text.Alphanumeric
import Marquee.Text.Blank
import Marquee.Text.Decimal

/-! Which log entries are shown. A filter is a list of rules between commas: a level, a source, or a
source and a level with an equals sign between them. The rule for the longest source counts, and
where none applies nothing is shown. A rule may also ask for a span or for fields in brackets. No
entry is ever in a span, and the only field of an entry is its message. -/

namespace Marquee

structure Rule where
  /-- What the path of the source starts with. -/
  target : Option (List Char) := none
  /-- The rule is for what happens in a span. -/
  inSpan : Bool := false
  /-- Fields that must be there, and whether their value matters too. -/
  fields : List (List Char × Bool) := []
  /-- The rank of the least important level to be shown. -/
  rank : Nat := Level.trace.rank

namespace Rule

/-- A level by its name in either case, or by its rank. -/
def rank? (text : List Char) : Option Nat :=
  match Text.naturalUpTo? 5 (String.ofList text) with
  | some rank => some rank
  | none =>
    match (String.ofList text).toLower with
    | "off" => some 0
    | "error" => some Level.error.rank
    | "warn" => some Level.warn.rank
    | "info" => some Level.info.rank
    | "debug" => some Level.debug.rank
    | "trace" => some Level.trace.rank
    | _ => none

def trim (chars : List Char) : List Char :=
  ((chars.dropWhile Text.isBlank).reverse.dropWhile Text.isBlank).reverse

def startsName (char : Char) : Bool :=
  Text.isAlphanumeric char || char == '-' || char == ':' || char == '_'

/-- What follows an equals sign. -/
def level? (rule : Rule) (text : List Char) : Option Rule :=
  if text = [] then some rule else (rank? text).map fun rank => { rule with rank }

def field (text : List Char) : List Char × Bool :=
  (text.takeWhile (· != '='), (text.dropWhile (· != '=')) != [])

/-- What comes after the closing bracket: nothing, or a level. The text is cut at a place of the
rule as it was written. -/
def afterBracket? (rule : Rule) (written : List Char) (place : Nat) : List Char → Option Rule
  | [] => some rule
  | '=' :: _ => rule.level? (written.drop (place + 1))
  | _ => none

/-- A span, fields in braces, or both, from behind the opening bracket. A bracket that is never
closed counts for nothing. -/
def bracket? (rule : Rule) (written trimmed : List Char) (start : Nat) : Option Rule :=
  let inside := (trimmed.drop start).takeWhile fun char => char != ']' && char != '\x7B'
  let place := start + inside.length
  let span := (written.drop start).take inside.length
  match trimmed.drop place with
  | ']' :: rest => { rule with inSpan := true }.afterBracket? written (place + 1) rest
  | '\x7B' :: rest =>
    let rule := { rule with inSpan := !span.isEmpty }
    let inner := rest.takeWhile (· != '\x7D')
    let text := (written.drop (place + 1)).take inner.length
    let close := place + 1 + inner.length
    match trimmed.drop close with
    | _ :: rest =>
      if text = [] then none
      else
        let rule := { rule with fields := [field text] }
        match rest with
        | [] => some rule
        | ']' :: rest => rule.afterBracket? written (close + 2) rest
        | _ => none
    | [] => some rule
  | _ => some rule

/-- Places are counted from the first character that is no space, but the parts are cut out of the
rule as it was written. So a rule with space in front of it rarely means what it seems to. -/
def parse? (written : List Char) : Option Rule :=
  let trimmed := trim written
  match trimmed with
  | [] => some {}
  | '[' :: _ => bracket? {} written trimmed 1
  | first :: rest =>
    if !startsName first then none
    else
      let name := rest.takeWhile fun char => char != '=' && char != '['
      let place := name.length + 1
      let target := some (written.take place)
      match trimmed.drop place with
      | '=' :: _ => { target : Rule }.level? (written.drop (place + 1))
      | '[' :: _ => bracket? { target } written trimmed (place + 1)
      | _ =>
        match rank? written with
        | some rank => some { rank }
        | none => some { target := some written }

/-- Rules that only what happens in a span can meet never show an entry. -/
def isStatic (rule : Rule) : Bool := !rule.inSpan && !rule.fields.any (·.2)

def messageField : List Char := ['m', 'e', 's', 's', 'a', 'g', 'e']

def applies (rule : Rule) (source : Source) : Bool :=
  rule.isStatic &&
    rule.target.all (·.isPrefixOf source.path.toList) &&
    rule.fields.all fun field => field.1 == messageField

/-- Longer targets first, then more fields. -/
def isAtLeast (rule other : Rule) : Bool :=
  let length := fun rule : Rule => rule.target.elim 0 (·.length + 1)
  length other < length rule ||
    (length other == length rule && other.fields.length ≤ rule.fields.length)

end Rule

abbrev Filter := List Rule

namespace Filter

def upTo (level : Level) : Filter := [{ rank := level.rank }]

def splitCommas : List Char → List (List Char)
  | [] => [[]]
  | char :: rest =>
    match splitCommas rest with
    | part :: parts => if char = ',' then [] :: part :: parts else (char :: part) :: parts
    | [] => [[char]]

/-- A filter without a rule shows errors. -/
def parse? (text : String) : Option Filter :=
  match (splitCommas text.toList).filter (· ≠ []) with
  | [] => some (upTo .error)
  | parts => parts.mapM Rule.parse?

/-- The rule that counts. Of two equally good ones it is the later one. -/
def rule? (filter : Filter) (source : Source) : Option Rule :=
  (filter.filter (·.applies source)).foldl
    (fun best rule => match best with
      | none => some rule
      | some other => if rule.isAtLeast other then some rule else some other)
    none

def shows (filter : Filter) (entry : Entry) : Bool :=
  match filter.rule? entry.source with
  | some rule => entry.level.rank ≤ rule.rank
  | none => false

/-- Asking for more on the command line counts for more than the environment. What cannot be
understood there counts for nothing. -/
def choose (verbosity : Nat) (environment : Option String) : Filter :=
  if verbosity = 0 then ((environment.bind parse?).getD (upTo .warn))
  else if verbosity = 1 then upTo .info
  else upTo .debug

end Filter
end Marquee
