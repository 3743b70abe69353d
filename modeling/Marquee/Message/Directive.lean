import Marquee.Style

/-! What the tags of a message do. A style tag changes how the text after it is shown. An insertion
puts a control sequence into the text, which the sign replaces by the time, the date or the
contents of a string file. -/

namespace Marquee

def Position.tag : Position → String
  | .middle => "middle"
  | .top => "top"
  | .bottom => "bottom"
  | .fill => "fill"

def Color.tag : Color → String
  | .red => "red"
  | .green => "green"
  | .amber => "amber"
  | .dimRed => "dimred"
  | .dimGreen => "dimgreen"
  | .brown => "brown"
  | .orange => "orange"
  | .yellow => "yellow"
  | .rainbow1 => "rainbow1"
  | .rainbow2 => "rainbow2"
  | .mix => "mix"
  | .auto => "autocolor"
  | .blue => "blue"

def Mode.tag : Mode → String
  | .rotate => "rotate"
  | .hold => "hold"
  | .flash => "flash"
  | .rollUp => "rollup"
  | .rollDown => "rolldown"
  | .rollLeft => "rollleft"
  | .rollRight => "rollright"
  | .wipeUp => "wipeup"
  | .wipeDown => "wipedown"
  | .wipeLeft => "wipeleft"
  | .wipeRight => "wiperight"
  | .scroll => "scroll"
  | .auto => "automode"
  | .rollIn => "rollin"
  | .rollOut => "rollout"
  | .wipeIn => "wipein"
  | .wipeOut => "wipeout"
  | .compressedRotate => "cmprsrot"
  | .twinkle => "twinkle"
  | .sparkle => "sparkle"
  | .snow => "snow"
  | .interlock => "interlock"
  | .switch => "switch"
  | .slide => "slide"
  | .spray => "spray"
  | .starburst => "starburst"
  | .welcome => "welcome"
  | .slotMachine => "slotmachine"
  | .newsflash => "newsflash"
  | .trumpet => "trumpet"
  | .thankYou => "thankyou"
  | .noSmoking => "nosmoking"
  | .drinkDrive => "drinkdrive"
  | .animal => "animal"
  | .fish => "fish"
  | .fireworks => "fireworks"
  | .turboCar => "turbocar"
  | .balloons => "balloons"
  | .cherryBomb => "cherrybomb"

namespace Message

inductive Insertion
  | time
  /-- Month, day and year, with slashes. -/
  | usDate
  /-- The day of the week and the time. -/
  | timeDay
  /-- Only files with a digit for a label have a tag. -/
  | stringFile (digit : Fin 10)
  deriving DecidableEq

namespace Insertion

def timeCode : UInt8 := 0x13
def dateCode : UInt8 := 0x0B
def stringCode : UInt8 := 0x10

/-- The label of a string file, as a character. -/
def fileLabel (digit : Fin 10) : Char := Char.ofNat (48 + digit.val)

def code : Insertion → Bytes
  | .time => [timeCode]
  | .usDate => [dateCode, '0'.toUInt8]
  | .timeDay => [dateCode, '9'.toUInt8, ' '.toUInt8, timeCode]
  | .stringFile digit => [stringCode, (fileLabel digit).toUInt8]

def tag : Insertion → String
  | .time => "time"
  | .usDate => "usdate"
  | .timeDay => "timeday"
  | .stringFile digit => "str".push (fileLabel digit)

def every : List Insertion :=
  [.time, .usDate, .timeDay] ++ (List.finRange 10).map .stringFile

theorem mem_every (insertion : Insertion) : insertion ∈ every := by
  cases insertion with
  | stringFile digit => simp [every]
  | _ => simp [every]

end Insertion

inductive Directive
  | position (position : Position)
  | color (color : Color)
  | mode (mode : Mode)
  | insert (insertion : Insertion)
  deriving DecidableEq

namespace Directive

def tag : Directive → String
  | .position p => p.tag
  | .color c => c.tag
  | .mode m => m.tag
  | .insert i => i.tag

/-- What stands on the line for the directive. -/
def code : Directive → Bytes
  | .position p => p.code
  | .color c => c.code
  | .mode m => m.code
  | .insert i => i.code

def every : List Directive :=
  Position.every.map .position ++ Color.every.map .color ++ Mode.every.map .mode ++
    Insertion.every.map .insert

theorem mem_every (directive : Directive) : directive ∈ every := by
  cases directive with
  | position p => simp [every, Position.mem_every p]
  | color c => simp [every, Color.mem_every c]
  | mode m => simp [every, Mode.mem_every m]
  | insert i => simp [every, Insertion.mem_every i]

/-- Tags are read as they are written, capitals included. -/
def ofTag? (name : String) : Option Directive := every.find? (·.tag == name)

/-- No tag stands for two directives. -/
theorem ofTag?_tag (directive : Directive) : ofTag? directive.tag = some directive := by
  have found : ∀ directive ∈ every, ofTag? directive.tag = some directive := by decide +kernel
  exact found directive (mem_every directive)

/-- Only a style directive can end a block. -/
def isStyle : Directive → Bool
  | .insert _ => false
  | _ => true

def apply : Directive → Style → Style
  | .position p, style => { style with position := p }
  | .color c, style => { style with color := c }
  | .mode m, style => { style with mode := m }
  | .insert _, style => style

end Directive
end Message
end Marquee
