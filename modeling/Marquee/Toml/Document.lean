import Marquee.Toml.Scalar

/-! A document is read line by line. A line opens a table or sets a key of the table that is open.
Only well-formed documents are read, and nothing is said of what is wrong with the others. -/

namespace Marquee.Toml

mutual

/-- A value. The fuel bounds the values and keys that are still to come, the depth the brackets and
braces that may still be opened inside of each other. -/
def value : Nat → Nat → Chars → Option (Value × Chars)
  | 0, _, _ => none
  | fuel + 1, depth, chars =>
    match depth, chars with
    | 0, '[' :: _ => none
    | 0, '{' :: _ => none
    | depth + 1, '[' :: rest => do
      let (found, rest) ← items fuel depth (← skipLines false rest)
      return (.array found, rest)
    | depth + 1, '{' :: rest => do
      let (entries, rest) ← members fuel depth [] (← skipLines false rest)
      return (.table .braces entries, rest)
    | _, _ =>
      match text? chars with
      | some (text, rest) => some (.text text, rest)
      | none => scalar? chars

/-- The items up to the closing bracket. -/
def items : Nat → Nat → Chars → Option (List Value × Chars)
  | 0, _, _ => none
  | fuel + 1, depth, chars =>
    match chars with
    | ']' :: rest => some ([], rest)
    | _ => do
      let (first, rest) ← value fuel depth chars
      match ← skipLines false rest with
      | ',' :: rest => do
        let (others, rest) ← items fuel depth (← skipLines false rest)
        return (first :: others, rest)
      | ']' :: rest => return ([first], rest)
      | _ => none

/-- The entries up to the closing brace, added to those before them. Between braces a line may end
anywhere but inside a key. -/
def members : Nat → Nat → Entries → Chars → Option (Entries × Chars)
  | 0, _, _, _ => none
  | fuel + 1, depth, entries, chars =>
    match chars with
    | '}' :: rest => some (entries, rest)
    | _ => do
      let (path, rest) ← key? chars
      let rest ← mark? '=' (← skipLines false rest)
      let (found, rest) ← value fuel depth (← skipLines false rest)
      let entries ← entries.set (path.getLast?.getD "") found path.dropLast
      match ← skipLines false rest with
      | ',' :: rest => members fuel depth entries (← skipLines false rest)
      | '}' :: rest => return (entries, rest)
      | _ => none

end

/-- The table that lines add to, by its path. -/
structure Reading where
  entries : Entries := []
  header : List String := []

def line (reading : Reading) : Chars → Option (Reading × Chars)
  | '[' :: '[' :: chars => do
    let (path, rest) ← key? chars
    let rest ← endLine (← mark? ']' (← mark? ']' rest))
    let entries ← reading.entries.under (·.openRow (path.getLast?.getD "")) path.dropLast
    return (⟨entries, path⟩, rest)
  | '[' :: chars => do
    let (path, rest) ← key? chars
    let rest ← endLine (← mark? ']' rest)
    let entries ← reading.entries.under (·.openTable (path.getLast?.getD "")) path.dropLast
    return (⟨entries, path⟩, rest)
  | chars => do
    let (path, rest) ← key? chars
    let (found, rest) ← value (rest.length + 1) deepest (skipSpace (← mark? '=' rest))
    let rest ← endLine rest
    let entries ← reading.entries.under (·.set (path.getLast?.getD "") found path.dropLast)
      reading.header
    return ({ reading with entries }, rest)

/-- The lines to come, with fuel for as many as there are characters. -/
def lines : Nat → Reading → Chars → Option Entries
  | 0, _, _ => none
  | fuel + 1, reading, chars => do
    match ← skipLines false chars with
    | [] => return reading.entries
    | chars => do
      let (reading, rest) ← line reading chars
      lines fuel reading rest

/-- A byte order mark before the document is not part of it. -/
def parse (document : String) : Option Entries :=
  let chars := match document.toList with
    | '\uFEFF' :: chars => chars
    | chars => chars
  lines (chars.length + 1) {} chars

end Marquee.Toml
