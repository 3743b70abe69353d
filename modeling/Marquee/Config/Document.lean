import Marquee.Config
import Marquee.Toml.Document

/-! The settings in a TOML document. A section is a table of named settings, or an array of the same
settings in their order. A setting that nobody knows spoils the document. -/

namespace Marquee.Config

open Toml (Value)

/-- How one setting changes its section. -/
abbrev Setter (α : Type) := α → Value → Option α

def text? : Value → Option String
  | .text text => some text
  | _ => none

def word16? : Value → Option UInt16
  | .integer (some value) => if 0 ≤ value ∧ value < 0x10000 then some value.toNat.toUInt16 else none
  | _ => none

def word64? : Value → Option UInt64
  | .integer (some value) =>
    if 0 ≤ value ∧ value < 0x10000000000000000 then some value.toNat.toUInt64 else none
  | _ => none

/-- One of several names, alone or as the only key of a table with nothing behind it. -/
def choice? {α : Type} (names : List (String × α)) : Value → Option α
  | .text name => names.lookup name
  | .table _ [(name, .array [])] => names.lookup name
  | .table _ [(name, .table _ [])] => names.lookup name
  | _ => none

/-- Items beyond the last setting are not looked at. -/
def inOrder {α : Type} (start : α) (setters : List (Setter α)) (items : List Value) : Option α :=
  (setters.zip items).foldlM (fun current (setter, item) => setter current item) start

def section? {α : Type} (start : α) (settings : List (String × Setter α)) : Value → Option α
  | .table _ entries =>
    entries.foldlM (fun current (key, value) => do (← settings.lookup key) current value) start
  | .array items => inOrder start (settings.map (·.2)) items
  | .rows latest => inOrder start (settings.map (·.2)) (latest.reverse.map (.table .header))
  | _ => none

def signSettings : List (String × Setter SignSection) := [
  ("address", fun sign value => do return { sign with address := ← text? value }),
  ("sign_type", fun sign value => do return { sign with signType := ← text? value }),
  ("charset", fun sign value => do
    return { sign with charset := ← choice? [("utf8", .utf8), ("extended", .extended)] value })]

def linkSettings : List (String × Setter LinkSection) := [
  ("kind", fun link value => do
    return { link with
      kind := ← choice? [("usb", .usb), ("serial", .serial), ("stdout", .stdout)] value }),
  ("vendor_id", fun link value => do return { link with vendor := ← word16? value }),
  ("product_id", fun link value => do return { link with product := ← word16? value }),
  ("path", fun link value => do return { link with path := some (← text? value) }),
  ("inter_byte_delay_us", fun link value => do return { link with delay := ← word64? value })]

def sections : List (String × Setter Config) := [
  ("sign", fun config value => do return { config with sign := ← section? {} signSettings value }),
  ("link", fun config value => do return { config with link := ← section? {} linkSettings value })]

def parse (document : String) : Except ConfigFault Config :=
  match Toml.parse document with
  | none => .error .malformed
  | some entries =>
    match section? {} sections (.table .header entries) with
    | none => .error .malformed
    | some config => .ok config

end Marquee.Config
