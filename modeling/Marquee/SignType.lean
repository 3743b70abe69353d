import Marquee.Fault
import Marquee.Wire

/-! Classes of signs. A transmission names one of them, and every other sign ignores it. -/

namespace Marquee

inductive SignType
  /-- All signs, which then show how the transmission went. -/
  | verify
  | serialClock
  | alphaVision
  | alphaVisionFull
  | alphaVisionChar
  | alphaVisionLine
  /-- What a sign sends back. -/
  | response
  | oneLine
  | twoLine
  | allButBetaBrite
  | model430i
  | model440i
  | model460i
  | model790i
  | allSigns
  | betaBrite
  | model4120C
  | model4160C
  | model4200C
  | model4240C
  | model215
  | model215C
  | model4120R
  | model4160R
  | model4200R
  | model4240R
  | model300
  | model7000
  | solar96x16
  | solar128x16
  | solar160x16
  | solar192x16
  | ppd
  | director
  | model4080C
  /-- The 210C and the 220C. -/
  | model2x0C
  /-- All signs, which first lay out 26 files of 150 bytes. -/
  | allConfig
  deriving DecidableEq

namespace SignType

/-- The letter that selects the class on the line. -/
def letter : SignType → Char
  | .verify => '!'
  | .serialClock => '"'
  | .alphaVision => '#'
  | .alphaVisionFull => '$'
  | .alphaVisionChar => '%'
  | .alphaVisionLine => '&'
  | .response => '0'
  | .oneLine => '1'
  | .twoLine => '2'
  | .allButBetaBrite => '?'
  | .model430i => 'C'
  | .model440i => 'D'
  | .model460i => 'E'
  | .model790i => 'U'
  | .allSigns => 'Z'
  | .betaBrite => '^'
  | .model4120C => 'a'
  | .model4160C => 'b'
  | .model4200C => 'c'
  | .model4240C => 'd'
  | .model215 => 'e'
  | .model215C => 'f'
  | .model4120R => 'g'
  | .model4160R => 'h'
  | .model4200R => 'i'
  | .model4240R => 'j'
  | .model300 => 'k'
  | .model7000 => 'l'
  | .solar96x16 => 'm'
  | .solar128x16 => 'n'
  | .solar160x16 => 'o'
  | .solar192x16 => 'p'
  | .ppd => 'q'
  | .director => 'r'
  | .model4080C => 't'
  | .model2x0C => 'u'
  | .allConfig => 'z'

def byte (signType : SignType) : UInt8 := signType.letter.toUInt8

/-- The short name used in settings and on the command line. -/
def name : SignType → String
  | .verify => "verify"
  | .serialClock => "serial-clock"
  | .alphaVision => "alphavision"
  | .alphaVisionFull => "alphavision-full"
  | .alphaVisionChar => "alphavision-char"
  | .alphaVisionLine => "alphavision-line"
  | .response => "response"
  | .oneLine => "one-line"
  | .twoLine => "two-line"
  | .allButBetaBrite => "all-but-betabrite"
  | .model430i => "430i"
  | .model440i => "440i"
  | .model460i => "460i"
  | .model790i => "790i"
  | .allSigns => "all"
  | .betaBrite => "betabrite"
  | .model4120C => "4120c"
  | .model4160C => "4160c"
  | .model4200C => "4200c"
  | .model4240C => "4240c"
  | .model215 => "215"
  | .model215C => "215c"
  | .model4120R => "4120r"
  | .model4160R => "4160r"
  | .model4200R => "4200r"
  | .model4240R => "4240r"
  | .model300 => "300"
  | .model7000 => "7000"
  | .solar96x16 => "solar-96x16"
  | .solar128x16 => "solar-128x16"
  | .solar160x16 => "solar-160x16"
  | .solar192x16 => "solar-192x16"
  | .ppd => "ppd"
  | .director => "director"
  | .model4080C => "4080c"
  | .model2x0C => "2x0c"
  | .allConfig => "all-config"

def every : List SignType := [
  .verify, .serialClock, .alphaVision, .alphaVisionFull, .alphaVisionChar, .alphaVisionLine,
  .response, .oneLine, .twoLine, .allButBetaBrite, .model430i, .model440i, .model460i,
  .model790i, .allSigns, .betaBrite, .model4120C, .model4160C, .model4200C, .model4240C,
  .model215, .model215C, .model4120R, .model4160R, .model4200R, .model4240R, .model300,
  .model7000, .solar96x16, .solar128x16, .solar160x16, .solar192x16, .ppd, .director,
  .model4080C, .model2x0C, .allConfig]

theorem mem_every (signType : SignType) : signType ∈ every := by
  cases signType <;> decide

def ofByte? (byte : UInt8) : Option SignType := every.find? (·.byte == byte)

@[simp] theorem ofByte?_byte (signType : SignType) : ofByte? signType.byte = some signType := by
  cases signType <;> rfl

theorem ofByte?_eq_some_iff {byte : UInt8} {signType : SignType} :
    ofByte? byte = some signType ↔ signType.byte = byte := by
  constructor
  · intro found
    unfold ofByte? at found
    have same := List.find?_some found
    exact beq_iff_eq.mp same
  · rintro rfl
    exact ofByte?_byte signType

theorem ofByte?_eq_none_iff {byte : UInt8} :
    ofByte? byte = none ↔ ∀ signType : SignType, signType.byte ≠ byte := by
  simp [ofByte?, mem_every]

/-- No class is selected by a control byte. -/
theorem byte_printable (signType : SignType) : 0x20 ≤ signType.byte := by
  cases signType <;> decide

/-- Names are read in either case of the letters A to Z. -/
def ofName? (text : String) : Option SignType := every.find? (·.name == text.toLower)

/-- Reads a name, or else the one character that selects the class on the line. -/
def parse (text : String) : Except Fault SignType :=
  match ofName? text, utf8 text with
  | some signType, _ => .ok signType
  | none, [byte] => (ofByte? byte).elim (.error .unknownSignType) .ok
  | none, _ => .error .unknownSignType

end SignType
end Marquee
