import Marquee.Text.Blank

/-! A message is a row of words. A word in brackets is a tag if its name could be one, and any
other word is text to be shown, brackets and all. -/

namespace Marquee.Message

inductive Token
  | literal (word : String)
  /-- The name, without the brackets. -/
  | tag (name : String)
  deriving DecidableEq

namespace Token

def shortestTag : Nat := 2
def longestTag : Nat := 12

def tagName? : List Char → Option (List Char)
  | '[' :: rest =>
    let name := rest.dropLast
    if rest.getLast? = some ']' ∧ shortestTag ≤ name.length ∧ name.length ≤ longestTag ∧
        name.all Char.isAlphanum then
      some name
    else none
  | _ => none

/-- No token for the empty word. -/
def ofWord? (word : String) : Option Token :=
  if word.isEmpty then none
  else match tagName? word.toList with
    | some name => some (.tag (String.ofList name))
    | none => some (.literal word)

end Token

def tokenize (text : String) : List Token := (Text.words text).filterMap Token.ofWord?

/-- Where one text ends, so does its last word. -/
def tokenizeAll (texts : List String) : List Token :=
  (texts.flatMap Text.words).filterMap Token.ofWord?

end Marquee.Message
