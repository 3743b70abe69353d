import Marquee.Text.Hidden

/-! Text between double quotes, as it is shown in messages: each character can be told from the
others, and none disturbs the line it is shown on. -/

namespace Marquee.Text

/-- Lower case digits, without leading zeros. -/
def hexadecimal (value : Nat) : List Char := Nat.toDigits 16 value

def quotedChar (char : Char) : List Char :=
  match char with
  | '\x00' => ['\\', '0']
  | '\t' => ['\\', 't']
  | '\n' => ['\\', 'n']
  | '\x0D' => ['\\', 'r']
  | '\x22' => ['\\', '\x22']
  | '\\' => ['\\', '\\']
  | char =>
    if isHidden char then ['\\', 'u', '\x7B'] ++ hexadecimal char.toNat ++ ['\x7D'] else [char]

def quoted (text : String) : String :=
  String.ofList ('\x22' :: text.toList.flatMap quotedChar ++ ['\x22'])

end Marquee.Text
