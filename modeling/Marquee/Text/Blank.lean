/-! White space, and the words between it. -/

namespace Marquee.Text

/-- The characters with the property White_Space, as first and last of each run. -/
def blanks : List (Char × Char) := [
  ('\x09', '\x0D'), (' ', ' '), ('\u0085', '\u0085'), ('\u00A0', '\u00A0'), ('\u1680', '\u1680'),
  ('\u2000', '\u200A'), ('\u2028', '\u2029'), ('\u202F', '\u202F'), ('\u205F', '\u205F'),
  ('\u3000', '\u3000')]

def isBlank (char : Char) : Bool := blanks.any fun (first, last) => first ≤ char && char ≤ last

/-- The word that the characters start in the middle of, and the words after it. -/
def wordsFrom : List Char → List Char × List (List Char)
  | [] => ([], [])
  | char :: rest =>
    let (word, words) := wordsFrom rest
    if isBlank char then ([], if word.isEmpty then words else word :: words)
    else (char :: word, words)

/-- No word is empty and none holds a blank. -/
def wordsOf (chars : List Char) : List (List Char) :=
  let (word, words) := wordsFrom chars
  if word.isEmpty then words else word :: words

def words (text : String) : List String := (wordsOf text.toList).map String.ofList

end Marquee.Text
