import Marquee.Toml.Text
import Marquee.Toml.Value

/-! Values written without quotes: integers, floats, truth values, dates and times. -/

namespace Marquee.Toml

/-- Digits of a base, with single underscores between them. -/
def digitsFrom (base : Nat) (value : Nat) (afterDigit : Bool) : Chars → Option Nat
  | [] => if afterDigit then some value else none
  | char :: rest =>
    if char = '_' then if afterDigit then digitsFrom base value false rest else none
    else match hexValue? char with
      | some digit =>
        if digit < base then digitsFrom base (value * base + digit) true rest else none
      | none => none

def digits? (base : Nat) (chars : Chars) : Option Nat := digitsFrom base 0 false chars

/-- What follows a sign, or the whole word if there is none. -/
def unsigned : Chars → Chars
  | '+' :: rest => rest
  | '-' :: rest => rest
  | chars => chars

def startsWithDigit (chars : Chars) : Bool := (chars.head? >>= hexValue?).isSome

/-- What a decimal number is made of besides its sign. A number of several digits does not start
with a zero. -/
def body? (word : Chars) : Option Chars :=
  match unsigned word with
  | '0' :: _ :: _ => none
  | body => some body

def isExponent (char : Char) : Bool := char == 'e' || char == 'E'

/-- A fraction, an exponent, or both, behind a decimal number. -/
def isFloat (word : Chars) : Bool :=
  unsigned word = ['i', 'n', 'f'] || unsigned word = ['n', 'a', 'n'] ||
    match body? (word.takeWhile fun char => char != '.' && !isExponent char) with
    | none => false
    | some whole =>
      let behind := word.dropWhile fun char => char != '.' && !isExponent char
      let fraction := behind.takeWhile (!isExponent ·)
      let exponent := behind.dropWhile (!isExponent ·)
      (digits? 10 whole).isSome && !behind.isEmpty &&
        (fraction.isEmpty || (digits? 10 (fraction.drop 1)).isSome) &&
        (exponent.isEmpty || (digits? 10 (unsigned (exponent.drop 1))).isSome)

/-- Whether each underscore stands between two digits, those of base sixteen included. -/
def isSeparated : Chars → Bool
  | [] => true
  | '_' :: _ => false
  | char :: '_' :: rest =>
    (hexValue? char).isSome && startsWithDigit rest && isSeparated rest
  | _ :: rest => isSeparated rest

/-- In a number with underscores only what stands around them is looked at. If there is more in it
than digits, it has no value. -/
def decimal? (word : Chars) : Option (Option Nat) := do
  let body ← body? word
  let digits := body.filter (· != '_')
  let behind := (unsigned word).dropWhile Char.isDigit
  if body ≠ [] ∧ isSeparated body ∧ (behind = [] ∨ behind.head? = some '_') ∧
      !behind.any fun char => char == '.' || isExponent char then
    some (if digits.all Char.isDigit then digits? 10 digits else none)
  else none

/-- A number in another base may even do without digits, and then it has no value either. -/
def based? (base : Nat) : Chars → Option (Option Int)
  | [] => some none
  | chars => (digits? base chars).map fun value => some (Int.ofNat value)

def integer? (word : Chars) : Option (Option Int) :=
  match word with
  | '0' :: 'x' :: rest => based? 16 rest
  | '0' :: 'o' :: rest => based? 8 rest
  | '0' :: 'b' :: rest => based? 2 rest
  | '-' :: _ => (decimal? word).map (·.map fun value => -(Int.ofNat value))
  | _ => (decimal? word).map (·.map Int.ofNat)

/-- A number of exactly so many digits. -/
def fixed? (length : Nat) (chars : Chars) : Option (Nat × Chars) :=
  let digits := chars.take length
  if digits.length = length ∧ digits.all Char.isDigit then
    (digits? 10 digits).map fun value => (value, chars.drop length)
  else none

def mark? (char : Char) : Chars → Option Chars
  | first :: rest => if first = char then some rest else none
  | [] => none

def daysIn (year month : Nat) : Nat :=
  if month = 2 then if year % 4 = 0 ∧ (year % 100 ≠ 0 ∨ year % 400 = 0) then 29 else 28
  else if month ∈ [4, 6, 9, 11] then 30 else 31

def date? (chars : Chars) : Option Chars := do
  let (year, chars) ← fixed? 4 chars
  let (month, chars) ← fixed? 2 (← mark? '-' chars)
  let (day, chars) ← fixed? 2 (← mark? '-' chars)
  if 1 ≤ month ∧ month ≤ 12 ∧ 1 ≤ day ∧ day ≤ daysIn year month then some chars else none

/-- The seconds may be left out. -/
def time? (chars : Chars) : Option Chars := do
  let (hour, chars) ← fixed? 2 chars
  let (minute, chars) ← fixed? 2 (← mark? ':' chars)
  if 23 < hour ∨ 59 < minute then none
  else match chars with
    | ':' :: chars => do
      let (second, chars) ← fixed? 2 chars
      if 60 < second then none
      else match chars with
        | '.' :: digit :: rest => if digit.isDigit then some (rest.dropWhile Char.isDigit) else none
        | chars => some chars
    | chars => some chars

def offset? : Chars → Option Chars
  | 'Z' :: rest => some rest
  | 'z' :: rest => some rest
  | sign :: rest => do
    if sign ≠ '+' ∧ sign ≠ '-' then none
    else
      let (hour, chars) ← fixed? 2 rest
      let (minute, chars) ← fixed? 2 (← mark? ':' chars)
      if 23 < hour ∨ 59 < minute then none else some chars
  | [] => some []

def isMoment (chars : Chars) : Bool :=
  time? chars = some [] ||
    match date? chars with
    | none => false
    | some [] => true
    | some (between :: rest) =>
      (between = 'T' || between = 't' || between = ' ') && (time? rest >>= offset?) = some []

def isScalarEnd (char : Char) : Bool :=
  isSpace char || char ∈ [',', '=', '[', ']', '\x7B', '\x7D', '#', '\n', '\x0D']

/-- A date and a time may be one value with a space between them. -/
def scalarLength (chars : Chars) : Nat :=
  let word := chars.takeWhile (!isScalarEnd ·)
  match chars.drop word.length with
  | ' ' :: digit :: rest =>
    if date? word = some [] ∧ digit.isDigit then
      word.length + 1 + ((digit :: rest).takeWhile (!isScalarEnd ·)).length
    else word.length
  | _ => word.length

def scalar? (chars : Chars) : Option (Value × Chars) :=
  let word := chars.take (scalarLength chars)
  let rest := chars.drop (scalarLength chars)
  if String.ofList word ∈ ["true", "false"] then some (.boolean, rest)
  else match integer? word with
    | some value => some (.integer value, rest)
    | none =>
      if isFloat word then some (.float, rest)
      else if isMoment word then some (.moment, rest)
      else none

end Marquee.Toml
