import Marquee.Command

/-! The settings a sign keeps besides its files: the clock, the calendar and the order in which
text files run. Each takes one argument of a fixed shape. Only the shape is checked, so 29:59 is a
time and 02/30/24 a date. -/

namespace Marquee

inductive Setting
  | time
  | date
  | dayOfWeek
  | sequence
  deriving DecidableEq

namespace Setting

/-- One place of a fixed shape. -/
inductive Place
  | range (low high : Char)
  | mark (char : Char)

def Place.holds : Place → UInt8 → Bool
  | .range low high, byte => low.toUInt8 ≤ byte && byte ≤ high.toUInt8
  | .mark char, byte => byte == char.toUInt8

def digit : Place := .range '0' '9'

def fits : List Place → Bytes → Bool
  | [], [] => true
  | place :: places, byte :: bytes => place.holds byte && fits places bytes
  | _, _ => false

def timeShape : List Place := [.range '0' '2', digit, .mark ':', .range '0' '5', digit]

def dateShape : List Place :=
  [.range '0' '1', digit, .mark '/', .range '0' '3', digit, .mark '/', digit, digit]

def dayShape : List Place := [.range '1' '7']

def shortestSequence : Nat := 3
def longestSequence : Nat := 130

def isAlphanumeric (byte : UInt8) : Bool :=
  '0'.toUInt8 ≤ byte && byte ≤ '9'.toUInt8 ||
  'A'.toUInt8 ≤ byte && byte ≤ 'Z'.toUInt8 ||
  'a'.toUInt8 ≤ byte && byte ≤ 'z'.toUInt8

def accepts (setting : Setting) (argument : Bytes) : Bool :=
  match setting with
  | .time => fits timeShape argument
  | .date => fits dateShape argument
  | .dayOfWeek => fits dayShape argument
  | .sequence =>
    shortestSequence ≤ argument.length && argument.length ≤ longestSequence &&
      argument.all isAlphanumeric

def fault : Setting → Fault
  | .time => .time
  | .date => .date
  | .dayOfWeek => .dayOfWeek
  | .sequence => .sequence

def function : Setting → SpecialFunction
  | .time => .setTime
  | .date => .setDate
  | .dayOfWeek => .setDay
  | .sequence => .setSequence

/-- The character a sign does not want to see between the digits. -/
def separator? : Setting → Option UInt8
  | .time => some ':'.toUInt8
  | .date => some '/'.toUInt8
  | .dayOfWeek => none
  | .sequence => none

def name : Setting → String
  | .time => "settime"
  | .date => "setdate"
  | .dayOfWeek => "setday"
  | .sequence => "setsequence"

def every : List Setting := [.time, .date, .dayOfWeek, .sequence]

theorem mem_every (setting : Setting) : setting ∈ every := by
  cases setting <;> decide

def ofName? (name : String) : Option Setting := every.find? (·.name == name)

def encode (setting : Setting) : List String → Except Fault Command
  | [argument] =>
    let bytes := utf8 argument
    if setting.accepts bytes then
      .ok (.writeSpecial setting.function (bytes.filter (some · != setting.separator?)))
    else .error setting.fault
  | arguments => .error (.arity arguments.length)

theorem encode_eq_ok_iff {setting : Setting} {arguments : List String} {command : Command} :
    setting.encode arguments = .ok command ↔
      ∃ argument, arguments = [argument] ∧ setting.accepts (utf8 argument) ∧
        command = .writeSpecial setting.function
          ((utf8 argument).filter (some · != setting.separator?)) := by
  constructor
  · intro encoded
    unfold encode at encoded
    split at encoded
    next argument =>
      by_cases accepted : setting.accepts (utf8 argument)
      · rw [if_pos accepted] at encoded
        cases encoded
        exact ⟨argument, rfl, accepted, rfl⟩
      · rw [if_neg accepted] at encoded
        cases encoded
    next => cases encoded
  · rintro ⟨argument, rfl, accepted, rfl⟩
    simp only [encode, accepted, if_true]

/-- An unknown name is reported before anything is said of the arguments. -/
def encodeNamed (name : String) (arguments : List String) : Except Fault Command :=
  match ofName? name with
  | some setting => setting.encode arguments
  | none => .error .unknownSetting

end Setting
end Marquee
