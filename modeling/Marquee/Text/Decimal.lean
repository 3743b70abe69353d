/-! Numbers written in base ten, of any length. -/

namespace Marquee.Text

/-- The value of a row of digits. -/
def decimal (digits : List Char) : Nat :=
  digits.foldl (fun value digit => 10 * value + (digit.toNat - '0'.toNat)) 0

/-- A number with nothing around it but perhaps a plus sign in front, up to a bound. -/
def naturalUpTo? (most : Nat) (text : String) : Option Nat :=
  let digits := match text.toList with
    | '+' :: digits => digits
    | digits => digits
  if digits ≠ [] ∧ digits.all Char.isDigit ∧ decimal digits ≤ most then some (decimal digits)
  else none

end Marquee.Text
