import Marquee.Wire

/-! How a block of text is shown: where it stands, how it moves and what color it has. The wire
codes are not all of one width. A special mode is the letter n and one more character, and blue is
an eight byte escape. -/

namespace Marquee

/-- Where text stands on the display. -/
inductive Position
  | middle
  /-- From the top down, leaving the last line free. -/
  | top
  /-- Directly below a block at the top. -/
  | bottom
  /-- Centered, on all lines. -/
  | fill
  deriving DecidableEq

/-- How text enters and leaves the display. -/
inductive Mode
  | rotate | hold | flash | rollUp | rollDown | rollLeft | rollRight | wipeUp
  | wipeDown | wipeLeft | wipeRight | scroll | auto | rollIn | rollOut | wipeIn
  | wipeOut | compressedRotate | twinkle | sparkle | snow | interlock | switch | slide
  | spray | starburst | welcome | slotMachine | newsflash | trumpet | thankYou
  | noSmoking | drinkDrive | animal | fish | fireworks | turboCar | balloons | cherryBomb
  deriving DecidableEq

inductive Color
  | red | green | amber | dimRed | dimGreen | brown | orange | yellow | rainbow1
  | rainbow2 | mix | auto | blue
  deriving DecidableEq

namespace Position

def code : Position → Bytes
  | .middle => [' '.toUInt8]
  | .top => ['"'.toUInt8]
  | .bottom => ['&'.toUInt8]
  | .fill => ['0'.toUInt8]

def every : List Position := [.middle, .top, .bottom, .fill]

theorem mem_every (position : Position) : position ∈ every := by
  cases position <;> decide

end Position

namespace Mode

private def special (letter : Char) : Bytes := ['n'.toUInt8, letter.toUInt8]

def code : Mode → Bytes
  | .rotate => ['a'.toUInt8]
  | .hold => ['b'.toUInt8]
  | .flash => ['c'.toUInt8]
  | .rollUp => ['e'.toUInt8]
  | .rollDown => ['f'.toUInt8]
  | .rollLeft => ['g'.toUInt8]
  | .rollRight => ['h'.toUInt8]
  | .wipeUp => ['i'.toUInt8]
  | .wipeDown => ['j'.toUInt8]
  | .wipeLeft => ['k'.toUInt8]
  | .wipeRight => ['l'.toUInt8]
  | .scroll => ['m'.toUInt8]
  | .auto => ['o'.toUInt8]
  | .rollIn => ['p'.toUInt8]
  | .rollOut => ['q'.toUInt8]
  | .wipeIn => ['r'.toUInt8]
  | .wipeOut => ['s'.toUInt8]
  | .compressedRotate => ['t'.toUInt8]
  | .twinkle => special '0'
  | .sparkle => special '1'
  | .snow => special '2'
  | .interlock => special '3'
  | .switch => special '4'
  | .slide => special '5'
  | .spray => special '6'
  | .starburst => special '7'
  | .welcome => special '8'
  | .slotMachine => special '9'
  | .newsflash => special 'A'
  | .trumpet => special 'B'
  | .thankYou => special 'S'
  | .noSmoking => special 'U'
  | .drinkDrive => special 'V'
  | .animal => special 'W'
  | .fish => special 'W'
  | .fireworks => special 'X'
  | .turboCar => special 'Y'
  | .balloons => special 'Y'
  | .cherryBomb => special 'Z'

def every : List Mode := [
  .rotate, .hold, .flash, .rollUp, .rollDown, .rollLeft, .rollRight, .wipeUp, .wipeDown,
  .wipeLeft, .wipeRight, .scroll, .auto, .rollIn, .rollOut, .wipeIn, .wipeOut,
  .compressedRotate, .twinkle, .sparkle, .snow, .interlock, .switch, .slide, .spray, .starburst,
  .welcome, .slotMachine, .newsflash, .trumpet, .thankYou, .noSmoking, .drinkDrive, .animal,
  .fish, .fireworks, .turboCar, .balloons, .cherryBomb]

theorem mem_every (mode : Mode) : mode ∈ every := by
  cases mode <;> decide

end Mode

namespace Color

/-- Opens every color code. -/
def marker : UInt8 := 0x1C

private def plain (letter : Char) : Bytes := [marker, letter.toUInt8]

def code : Color → Bytes
  | .red => plain '1'
  | .green => plain '2'
  | .amber => plain '3'
  | .dimRed => plain '4'
  | .dimGreen => plain '5'
  | .brown => plain '6'
  | .orange => plain '7'
  | .yellow => plain '8'
  | .rainbow1 => plain '9'
  | .rainbow2 => plain 'A'
  | .mix => plain 'B'
  | .auto => plain 'C'
  | .blue => marker :: ['Z', '0', '0', '0', '0', 'F', 'F'].map Char.toUInt8

def every : List Color := [
  .red, .green, .amber, .dimRed, .dimGreen, .brown, .orange, .yellow, .rainbow1, .rainbow2,
  .mix, .auto, .blue]

theorem mem_every (color : Color) : color ∈ every := by
  cases color <;> decide

end Color

/-- A sign picks mode and color by itself unless a message says otherwise. -/
structure Style where
  mode : Mode := .auto
  color : Color := .auto
  position : Position := .middle
  deriving DecidableEq

def Style.code (style : Style) : Bytes :=
  style.position.code ++ style.mode.code ++ style.color.code

end Marquee
