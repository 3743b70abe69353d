/-! How a failure is told. What the program was doing comes first, then the causes, each caused by
the next. -/

namespace Marquee.Report

/-- The later lines of a text are moved to the right. -/
def indent (width : Nat) (text : String) : String :=
  String.ofList (text.toList.flatMap fun char =>
    if char = '\n' then '\n' :: List.replicate width ' ' else [char])

def numbered (number : Nat) (cause : String) : String :=
  let digits := number.repr
  "\n" ++ String.ofList (List.replicate (5 - digits.length) ' ') ++ digits ++ ": " ++ indent 7 cause

/-- Causes are only numbered if there are several. -/
def causes : List String → String
  | [] => ""
  | [cause] => "\n\nCaused by:\n    " ++ indent 4 cause
  | all => "\n\nCaused by:" ++ String.join (List.zipWith numbered (List.range all.length) all)

def render : List String → String
  | [] => ""
  | outermost :: rest => "Error: " ++ outermost ++ causes rest ++ "\n"

end Marquee.Report
