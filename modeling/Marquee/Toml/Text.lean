/-! Quoted text, keys and the space between them. Each reader takes the characters to come and gives
what it read and the characters after it, or nothing if the document is at fault. -/

namespace Marquee.Toml

abbrev Chars := List Char

def isSpace (char : Char) : Bool := char == ' ' || char == '\t'

def skipSpace (chars : Chars) : Chars := chars.dropWhile isSpace

/-- Control characters have no place in a document, except for tabs and the ends of lines. -/
def isAllowed (char : Char) : Bool := char == '\t' || (' ' ≤ char && char != '\x7F')

def dropNewline : Chars → Chars
  | '\n' :: rest => rest
  | '\x0D' :: '\n' :: rest => rest
  | chars => chars

/-- Skips space, ends of lines and comments. -/
def skipLines (comment : Bool) : Chars → Option Chars
  | [] => some []
  | '\n' :: rest => skipLines false rest
  | '\x0D' :: '\n' :: rest => skipLines false rest
  | char :: rest =>
    if comment then if isAllowed char then skipLines true rest else none
    else if isSpace char then skipLines false rest
    else if char = '#' then skipLines true rest
    else some (char :: rest)

/-- Nothing but space and a comment may follow on a line. -/
def endLine (chars : Chars) : Option Chars :=
  match skipSpace chars with
  | [] => some []
  | '#' :: rest => ended (rest.dropWhile isAllowed)
  | rest => ended rest
where
  ended : Chars → Option Chars
    | [] => some []
    | '\n' :: rest => some rest
    | '\x0D' :: '\n' :: rest => some rest
    | _ => none

def hexValue? (char : Char) : Option Nat :=
  if '0' ≤ char ∧ char ≤ '9' then some (char.toNat - 48)
  else if 'a' ≤ char ∧ char ≤ 'f' then some (char.toNat - 87)
  else if 'A' ≤ char ∧ char ≤ 'F' then some (char.toNat - 55)
  else none

/-- What a single letter after a backslash stands for. -/
def escaped? : Char → Option Char
  | 'b' => some '\x08'
  | 't' => some '\t'
  | 'n' => some '\n'
  | 'f' => some '\x0C'
  | 'r' => some '\x0D'
  | 'e' => some '\x1B'
  | '\x22' => some '\x22'
  | '\\' => some '\\'
  | _ => none

/-- How many digits of a character's number follow the letter. -/
def numberLength? : Char → Option Nat
  | 'x' => some 2
  | 'u' => some 4
  | 'U' => some 8
  | _ => none

def charOfNumber? (value : Nat) : Option Char :=
  if value.isValidChar then some (Char.ofNat value) else none

/-- Where a quoted text ends, with the quotes that still belong to it. A long text ends with three
quotes in a row, and up to two more may stand before them. -/
def closing? (quote : Char) (long : Bool) (chars : Chars) : Option (Chars × Chars) :=
  let quotes := min (chars.takeWhile (· == quote)).length 5
  if long then
    if 3 ≤ quotes then some (List.replicate (quotes - 3) quote, chars.drop quotes) else none
  else if 1 ≤ quotes then some ([], chars.drop 1) else none

/-- Where a reader stands inside a text in double quotes. -/
inductive Within
  | plain
  /-- After a backslash. -/
  | escape
  /-- In the number of a character, with so many digits to come. -/
  | number (missing : Nat) (value : Nat)
  /-- After a backslash that is the last thing on its line. -/
  | lineEnd
  /-- In the white space that such a backslash removes. -/
  | margin

def prepend (char : Char) : Option (Chars × Chars) → Option (Chars × Chars)
  | some (text, rest) => some (char :: text, rest)
  | none => none

/-- A text in double quotes, from behind the quotes that open it. The ends of its lines stay as they
were written. -/
def basic (long : Bool) : Within → Chars → Option (Chars × Chars)
  | _, [] => none
  | .number missing value, char :: rest =>
    match hexValue? char with
    | none => none
    | some digit =>
      if missing ≤ 1 then
        match charOfNumber? (value * 16 + digit) with
        | some escaped => prepend escaped (basic long .plain rest)
        | none => none
      else basic long (.number (missing - 1) (value * 16 + digit)) rest
  | .escape, '\x0D' :: '\n' :: rest => if long then basic long .margin rest else none
  | .escape, char :: rest =>
    if long && char == '\n' then basic long .margin rest
    else if long && isSpace char then basic long .lineEnd rest
    else match escaped? char, numberLength? char with
      | some escaped, _ => prepend escaped (basic long .plain rest)
      | none, some length => basic long (.number length 0) rest
      | none, none => none
  | .lineEnd, '\x0D' :: '\n' :: rest => basic long .margin rest
  | .lineEnd, char :: rest =>
    if char = '\n' then basic long .margin rest
    else if isSpace char then basic long .lineEnd rest
    else none
  | .margin, '\x0D' :: '\n' :: rest => basic long .margin rest
  | .plain, '\x0D' :: '\n' :: rest =>
    if long then prepend '\x0D' (prepend '\n' (basic long .plain rest)) else none
  | within, char :: rest =>
    match closing? '\x22' long (char :: rest), within with
    | some closed, _ => some closed
    | none, .margin =>
      if char = '\n' || isSpace char then basic long .margin rest
      else if char = '\\' then basic long .escape rest
      else if isAllowed char then prepend char (basic long .plain rest)
      else none
    | none, _ =>
      if char = '\\' then basic long .escape rest
      else if isAllowed char || (long && char == '\n') then prepend char (basic long .plain rest)
      else none

/-- A text in single quotes has no escapes. -/
def literal (long : Bool) : Chars → Option (Chars × Chars)
  | [] => none
  | '\x0D' :: '\n' :: rest =>
    if long then prepend '\x0D' (prepend '\n' (literal long rest)) else none
  | char :: rest =>
    match closing? '\x27' long (char :: rest) with
    | some closed => some closed
    | none =>
      if isAllowed char || (long && char == '\n') then prepend char (literal long rest) else none

def asText : Option (Chars × Chars) → Option (String × Chars)
  | some (text, rest) => some (String.ofList text, rest)
  | none => none

/-- A text on one line. -/
def shortText? : Chars → Option (String × Chars)
  | '\x22' :: rest => asText (basic false .plain rest)
  | '\x27' :: rest => asText (literal false rest)
  | _ => none

def text? : Chars → Option (String × Chars)
  | '\x22' :: '\x22' :: '\x22' :: rest => asText (basic true .plain (dropNewline rest))
  | '\x27' :: '\x27' :: '\x27' :: rest => asText (literal true (dropNewline rest))
  | chars => shortText? chars

def isBare (char : Char) : Bool := char.isAlphanum || char == '_' || char == '-'

def simpleKey? (chars : Chars) : Option (String × Chars) :=
  match chars.takeWhile isBare with
  | [] => shortText? chars
  | bare => some (String.ofList bare, chars.dropWhile isBare)

/-- The parts between the dots. There is at least one, and fuel for as many as there are
characters. -/
def keyParts : Nat → Chars → Option (List String × Chars)
  | 0, _ => none
  | fuel + 1, chars => do
    let (part, rest) ← simpleKey? (skipSpace chars)
    match skipSpace rest with
    | '.' :: rest => do
      let (parts, rest) ← keyParts fuel rest
      return (part :: parts, rest)
    | rest => return ([part], rest)

/-- How deep arrays and inline tables may be nested, and how many parts a key may have. -/
def deepest : Nat := 80

/-- A key, with the space around it. -/
def key? (chars : Chars) : Option (List String × Chars) := do
  let (parts, rest) ← keyParts (chars.length + 1) chars
  if parts.length ≤ deepest then some (parts, rest) else none

end Marquee.Toml
