/-! What a TOML document holds. Tables remember how they came to be, because that decides whether a
later line may add to them. -/

namespace Marquee.Toml

inductive Origin
  /-- Opened by a header of its own. -/
  | header
  /-- Named on the way to another table's header. -/
  | implied
  /-- Named by the dots in a key. -/
  | dotted
  /-- Written in braces, and closed ever after. -/
  | braces
  deriving DecidableEq

/-- Floats, truth values and dates are told apart from the rest, but no setting takes one, so they
are not kept. -/
inductive Value
  | text (value : String)
  /-- A word that passes for an integer may still have no value, and then no setting takes it. -/
  | integer (value : Option Int)
  | float
  | boolean
  | moment
  | array (items : List Value)
  /-- Tables under one header in double brackets, the latest first. -/
  | rows (latest : List (List (String × Value)))
  | table (origin : Origin) (entries : List (String × Value))

abbrev Entries := List (String × Value)

namespace Entries

def replace (entries : Entries) (key : String) (value : Value) : Entries :=
  entries.map fun entry => if entry.1 = key then (key, value) else entry

/-- Changes the table at the end of a header's path. -/
def under (change : Entries → Option Entries) : List String → Entries → Option Entries
  | [], entries => change entries
  | key :: path, entries =>
    match entries.lookup key with
    | none => (under change path []).map fun inner => entries ++ [(key, .table .implied inner)]
    | some (.table .braces _) => none
    | some (.table origin inner) =>
      (under change path inner).map fun inner => entries.replace key (.table origin inner)
    | some (.rows (latest :: before)) =>
      (under change path latest).map fun latest => entries.replace key (.rows (latest :: before))
    | some _ => none

/-- Opens a table. One that was only implied so far is opened late. -/
def openTable (key : String) (entries : Entries) : Option Entries :=
  match entries.lookup key with
  | none => some (entries ++ [(key, .table .header [])])
  | some (.table .implied inner) => some (entries.replace key (.table .header inner))
  | some _ => none

def openRow (key : String) (entries : Entries) : Option Entries :=
  match entries.lookup key with
  | none => some (entries ++ [(key, .rows [[]])])
  | some (.rows rows) => some (entries.replace key (.rows ([] :: rows)))
  | some _ => none

/-- Sets a key that has no value yet. The table that a dotted key adds to must be the work of dotted
keys alone. -/
def set (key : String) (value : Value) : List String → Entries → Option Entries
  | [], entries => if (entries.lookup key).isSome then none else some (entries ++ [(key, value)])
  | part :: path, entries =>
    match entries.lookup part with
    | none => (set key value path []).map fun inner => entries ++ [(part, .table .dotted inner)]
    | some (.table .dotted inner) =>
      (set key value path inner).map fun inner => entries.replace part (.table .dotted inner)
    | some (.table .implied inner) =>
      if path = [] then none
      else (set key value path inner).map fun inner => entries.replace part (.table .implied inner)
    | some _ => none

end Entries
end Marquee.Toml
