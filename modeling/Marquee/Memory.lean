import Marquee.Command
import Marquee.Hex

/-! A sign's memory is laid out in labelled files by a single special function. A file is
described as s[A,125], a string of 125 bytes, or as t[B,2048], a text of 2048 bytes. The whole
list of descriptors is read before anything is encoded, and an empty layout clears the memory. -/

namespace Marquee.Memory

inductive FileKind
  | string
  | text
  deriving DecidableEq

namespace FileKind

def ofChar? : Char → Option FileKind
  | 's' => some .string
  | 't' => some .text
  | _ => none

/-- The type of the file and whether the remote control may change it. -/
def protection : FileKind → Bytes
  | .string => ['B'.toUInt8, 'L'.toUInt8]
  | .text => ['A'.toUInt8, 'U'.toUInt8]

/-- When the file is shown. Texts run all day. -/
def hold : FileKind → Bytes
  | .string => List.replicate 4 '0'.toUInt8
  | .text => ['0', '0', 'F', 'F'].map Char.toUInt8

end FileKind

structure FileSpec where
  kind : FileKind
  label : Label
  size : UInt16
  deriving DecidableEq

def longestString : UInt16 := 125

namespace FileSpec

/-- The parts of a descriptor, before their values are looked at. The label may be any character,
also one of those that separate the parts. -/
def split? : List Char → Option (FileKind × Char × List Char)
  | kind :: '[' :: label :: ',' :: rest => do
    let kind ← FileKind.ofChar? kind
    let digits := rest.dropLast
    if rest.getLast? = some ']' ∧ digits ≠ [] ∧ digits.all Char.isDigit then
      some (kind, label, digits)
    else none
  | _ => none

/-- A number in sixteen bits, unless it takes more. -/
def fitted? (number : Nat) : Option UInt16 :=
  if number < UInt16.size then some number.toUInt16 else none

/-- Digits counted in sixteen bits, up to the first product or sum that does not fit. -/
def gather? (digits : List Char) : Option UInt16 :=
  digits.foldlM (fun size digit => do
    let shifted ← fitted? (size.toNat * 10)
    fitted? (shifted.toNat + (digit.toNat - '0'.toNat))) 0

/-- The label is looked at before the size. -/
def check (kind : FileKind) (label : Label) (digits : List Char) : Except Fault FileSpec :=
  if label.isPriority then .error .priorityFile
  else if kind = .string ∧ label.byte = '?'.toUInt8 then .error .stringLabel
  else
    match gather? digits with
    | none => .error .fileSize
    | some size =>
      if kind = .string ∧ longestString < size then .error .stringSize else .ok ⟨kind, label, size⟩

def parse (descriptor : String) : Except Fault FileSpec :=
  match split? descriptor.toList with
  | none => .error .descriptor
  | some (kind, label, digits) => do check kind (← Label.ofChar label) digits

/-- Eleven bytes, whatever the file. -/
def entry (file : FileSpec) : Bytes :=
  file.label.byte :: file.kind.protection ++ Hex.word file.size ++ file.kind.hold

end FileSpec

/-- The first descriptor that cannot be read, by its place in the list. -/
structure Misfit where
  index : Nat
  fault : Fault
  deriving DecidableEq

/-- People count from one. -/
def Misfit.message (misfit : Misfit) : String :=
  "descriptor #" ++ (misfit.index + 1).repr ++ ": " ++ misfit.fault.message

abbrev Layout := List FileSpec

namespace Layout

def parseFrom (index : Nat) : List String → Except Misfit Layout
  | [] => .ok []
  | descriptor :: rest =>
    match FileSpec.parse descriptor with
    | .error fault => .error ⟨index, fault⟩
    | .ok file => (parseFrom (index + 1) rest).map (file :: ·)

def parse (descriptors : List String) : Except Misfit Layout := parseFrom 0 descriptors

def command (layout : Layout) : Command :=
  .writeSpecial .memoryConfig (layout.flatMap FileSpec.entry)

end Layout

def configure (descriptors : List String) : Except Misfit Command :=
  (Layout.parse descriptors).map Layout.command

def clear : Command := Layout.command []

end Marquee.Memory
