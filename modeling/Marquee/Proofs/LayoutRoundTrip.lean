import Marquee.Link.Pacing
import Marquee.Proofs.DescriptorGrammar
import Marquee.Proofs.FirstMisfit

/-! A layout is told twice, in descriptors and in a payload, and it can be read back from both. The
size of a file is in base ten in the one and in base sixteen in the other. Nothing sets two entries
of a payload apart, and a label may be any byte of the fields around it, but all entries are of one
length. -/

namespace Marquee.Proofs.LayoutRoundTrip
open Memory DescriptorGrammar FirstMisfit

section Descriptors

/-- A file as it is described, with this many zeros in front of its size. -/
def written (zeros : Nat) (file : FileSpec) : String :=
  String.ofList (letter file.kind :: '[' :: Char.ofUInt8 file.label.byte :: ',' ::
    (List.replicate zeros '0' ++ Nat.toDigits 10 file.size.toNat ++ [']']))

theorem value_eq_ofDigitChars (digits : List Char) : value digits = Nat.ofDigitChars 10 digits 0 := by
  induction digits using List.reverseRecOn with
  | nil => rfl
  | append_singleton digits digit ih =>
    rw [value_concat, ih, Nat.ofDigitChars_append]
    rfl

theorem value_toDigits (zeros number : Nat) :
    value (List.replicate zeros '0' ++ Nat.toDigits 10 number) = number := by
  rw [value_eq_ofDigitChars, Nat.ofDigitChars_append, Nat.ofDigitChars_replicate_zero, Nat.mul_zero,
    Nat.ofDigitChars_ten_toDigits]

theorem described_written (zeros : Nat) (file : FileSpec) :
    Described (written zeros file) file.kind (Char.ofUInt8 file.label.byte)
      (List.replicate zeros '0' ++ Nat.toDigits 10 file.size.toNat) where
  shape := String.toList_ofList
  filled := by
    intro empty
    exact Nat.toDigits_ne_nil (List.append_eq_nil_iff.mp empty).2
  decimal := by
    intro digit member
    rcases List.mem_append.mp member with zero | digits
    · obtain rfl := List.eq_of_mem_replicate zero
      rfl
    · exact Nat.isDigit_of_mem_toDigits (by decide) (by decide) digits

theorem parse_written {descriptor : String} {file : FileSpec}
    (read : FileSpec.parse descriptor = .ok file) (zeros : Nat) :
    FileSpec.parse (written zeros file) = .ok file := by
  rw [parse_eq_iff] at read ⊢
  cases read with
  | @accepted label digits _ _ labelled short named sized =>
    have same : Char.ofUInt8 file.label.byte = label := Char.toNat_inj.mp named
    have size := value_toDigits zeros file.size.toNat
    apply Answered.accepted (described_written zeros file)
    · rwa [same]
    · rwa [size, sized]
    · rfl
    · exact size.symm

theorem parse_map_written {descriptors : List String} {layout : Layout}
    (read : Layout.parse descriptors = .ok layout) (zeros : FileSpec → Nat) :
    Layout.parse (layout.map fun file => written (zeros file) file) = .ok layout := by
  rw [Layout.parse, parseFrom_eq_ok_iff] at read ⊢
  induction read with
  | nil => exact .nil
  | cons file _ ih => exact .cons (parse_written file _) ih

end Descriptors

section Entries

/-- The value of a digit of base sixteen, in upper case. -/
def digit? (byte : UInt8) : Option Nat :=
  if '0'.toUInt8 ≤ byte ∧ byte ≤ '9'.toUInt8 then some (byte.toNat - '0'.toNat)
  else if 'A'.toUInt8 ≤ byte ∧ byte ≤ 'F'.toUInt8 then some (byte.toNat - 'A'.toNat + 10)
  else none

def word? : Bytes → Option UInt16
  | [first, second, third, fourth] => do
    let first ← digit? first
    let second ← digit? second
    let third ← digit? third
    let fourth ← digit? fourth
    some (((first * 16 + second) * 16 + third) * 16 + fourth).toUInt16
  | _ => none

def kind? (protection hold : Bytes) : Option FileKind :=
  if protection = utf8 "BL" ∧ hold = utf8 "0000" then some .string
  else if protection = utf8 "AU" ∧ hold = utf8 "00FF" then some .text
  else none

/-- An entry is its label, two bytes of protection, four digits of size and four of hold. -/
def entry? : Bytes → Option FileSpec
  | label :: first :: second :: third :: fourth :: fifth :: sixth :: hold => do
    let label ← (Label.ofByte label).toOption
    let kind ← kind? [first, second] hold
    let size ← word? [third, fourth, fifth, sixth]
    some ⟨kind, label, size⟩
  | _ => none

theorem digit?_eq_some_iff {byte : UInt8} {value : Nat} :
    digit? byte = some value ↔ value < 16 ∧ byte = (Hex.digit value).toUInt8 := by
  constructor
  · intro read
    have told : ∀ code < 256, ∀ value ∈ digit? (UInt8.ofNat code),
        value < 16 ∧ UInt8.ofNat code = (Hex.digit value).toUInt8 := by decide +kernel
    have byte_told := told byte.toNat byte.toNat_lt value
    rw [UInt8.ofNat_toNat] at byte_told
    exact byte_told read
  · rintro ⟨small, rfl⟩
    have told : ∀ value < 16, digit? (Hex.digit value).toUInt8 = some value := by decide
    exact told value small

theorem word_of_digits {size : UInt16} {first second third fourth : Nat}
    (sized : size.toNat = ((first * 16 + second) * 16 + third) * 16 + fourth)
    (second_lt : second < 16) (third_lt : third < 16) (fourth_lt : fourth < 16) :
    Hex.word size = [first, second, third, fourth].map fun value => (Hex.digit value).toUInt8 := by
  rw [Hex.word, sized]
  congr 1
  simp only [List.cons.injEq, and_true]
  omega

theorem word?_eq_some_iff {bytes : Bytes} {size : UInt16} :
    word? bytes = some size ↔ bytes = Hex.word size := by
  constructor
  · intro read
    unfold word? at read
    split at read
    next first second third fourth =>
      simp only [Option.bind_eq_bind, Option.bind_eq_some_iff, digit?_eq_some_iff,
        Option.some_inj] at read
      obtain ⟨a, ⟨a_lt, rfl⟩, b, ⟨b_lt, rfl⟩, c, ⟨c_lt, rfl⟩, d, ⟨d_lt, rfl⟩, rfl⟩ := read
      refine (word_of_digits ?_ b_lt c_lt d_lt).symm
      exact Nat.mod_eq_of_lt (by omega)
    next => cases read
  · rintro rfl
    have bound := size.toNat_lt
    have digit (value : Nat) (small : value < 16) : digit? (Hex.digit value).toUInt8 = some value :=
      digit?_eq_some_iff.mpr ⟨small, rfl⟩
    simp only [Hex.word, List.map_cons, List.map_nil, word?]
    rw [digit _ (by omega), digit _ (by omega), digit _ (by omega), digit _ (by omega)]
    simp only [Option.bind_eq_bind, Option.bind_some, Option.some_inj]
    apply UInt16.toNat_inj.mp
    apply Eq.trans (Nat.mod_eq_of_lt (by omega))
    omega

theorem kind?_eq_some_iff {protection hold : Bytes} {kind : FileKind} :
    kind? protection hold = some kind ↔ protection = kind.protection ∧ hold = kind.hold := by
  have string : utf8 "BL" = FileKind.string.protection ∧ utf8 "0000" = FileKind.string.hold := by
    decide
  have text : utf8 "AU" = FileKind.text.protection ∧ utf8 "00FF" = FileKind.text.hold := by decide
  rw [kind?, string.1, string.2, text.1, text.2]
  constructor
  · intro read
    split at read
    next same =>
      cases read
      exact same
    next =>
      split at read
      next same =>
        cases read
        exact same
      next => cases read
  · rintro ⟨rfl, rfl⟩
    cases kind <;> rfl

theorem label?_eq_some_iff {byte : UInt8} {label : Label} :
    (Label.ofByte byte).toOption = some label ↔ byte = label.byte := by
  constructor
  · intro read
    unfold Label.ofByte at read
    split at read
    next printable =>
      cases read
      rfl
    next => cases read
  · rintro rfl
    rw [Label.ofByte, dif_pos label.printable]
    rfl

theorem length_entry (file : FileSpec) : file.entry.length = 11 := by
  obtain ⟨kind, label, size⟩ := file
  cases kind <;> rfl

theorem entry?_eq_some_iff {bytes : Bytes} {file : FileSpec} :
    entry? bytes = some file ↔ bytes = file.entry := by
  obtain ⟨kind, label, size⟩ := file
  constructor
  · intro read
    unfold entry? at read
    split at read
    next =>
      simp only [Option.bind_eq_bind, Option.bind_eq_some_iff, Option.some_inj,
        label?_eq_some_iff, kind?_eq_some_iff, word?_eq_some_iff, FileSpec.mk.injEq] at read
      obtain ⟨_, rfl, _, ⟨protection, rfl⟩, _, digits, rfl, rfl, rfl⟩ := read
      rw [FileSpec.entry, ← protection, ← digits]
      rfl
    next => cases read
  · rintro rfl
    obtain ⟨first, second, protection⟩ : ∃ first second, kind.protection = [first, second] := by
      cases kind <;> exact ⟨_, _, rfl⟩
    obtain ⟨third, fourth, fifth, sixth, digits⟩ :
        ∃ third fourth fifth sixth, Hex.word size = [third, fourth, fifth, sixth] :=
      ⟨_, _, _, _, rfl⟩
    have label_read := label?_eq_some_iff.mpr (Eq.refl label.byte)
    have kind_read := kind?_eq_some_iff.mpr ⟨protection.symm, Eq.refl kind.hold⟩
    have size_read := word?_eq_some_iff.mpr digits.symm
    rw [FileSpec.entry, protection, digits]
    simp only [List.cons_append, List.nil_append, entry?, label_read, kind_read, size_read,
      Option.bind_eq_bind, Option.bind_some]

end Entries

section Payloads

/-- A payload opens with E$ and then has an entry in every eleven bytes. -/
def layout? : Bytes → Option Layout
  | first :: second :: entries =>
    if [first, second] = utf8 "E$" then (chunks 11 entries).mapM entry? else none
  | _ => none

theorem payload_layout (layout : Layout) :
    layout.command.payload = utf8 "E$" ++ layout.flatMap FileSpec.entry := rfl

theorem length_flatMap_entry (layout : Layout) :
    (layout.flatMap FileSpec.entry).length = 11 * layout.length := by
  induction layout with
  | nil => rfl
  | cons file layout ih =>
    rw [List.flatMap_cons, List.length_append, length_entry, ih, List.length_cons]
    omega

theorem chunks_flatMap_entry (layout : Layout) :
    chunks 11 (layout.flatMap FileSpec.entry) = layout.map FileSpec.entry := by
  induction layout with
  | nil => rw [List.flatMap_nil, chunks, if_pos rfl, List.map_nil]
  | cons file layout ih =>
    have filled : file.entry ++ layout.flatMap FileSpec.entry ≠ [] :=
      List.append_ne_nil_of_left_ne_nil (List.cons_ne_nil _ _) _
    rw [List.flatMap_cons, List.map_cons, chunks, if_neg filled, Nat.max_eq_left (by decide),
      List.take_left' (length_entry file), List.drop_left' (length_entry file), ih]

theorem drop_flatMap_entry (layout : Layout) (index : Nat) :
    (layout.flatMap FileSpec.entry).drop (11 * index) =
      (layout.drop index).flatMap FileSpec.entry := by
  induction index generalizing layout with
  | zero => rfl
  | succ index ih =>
    cases layout with
    | nil => rw [List.drop_nil, List.flatMap_nil, List.drop_nil]
    | cons file layout =>
      rw [Nat.mul_succ, Nat.add_comm, ← List.drop_drop, List.flatMap_cons,
        List.drop_left' (length_entry file), ih, List.drop_succ_cons]

theorem mapM_entry?_eq_some_iff {pieces : List Bytes} {layout : Layout} :
    pieces.mapM entry? = some layout ↔ pieces = layout.map FileSpec.entry := by
  induction pieces generalizing layout with
  | nil =>
    rw [List.mapM_nil, eq_comm (a := []), List.map_eq_nil_iff]
    exact Option.some_inj.trans eq_comm
  | cons piece pieces ih =>
    simp only [List.mapM_cons, Option.bind_eq_bind, Option.bind_eq_some_iff, ih,
      entry?_eq_some_iff]
    constructor
    · rintro ⟨file, rfl, files, rfl, read⟩
      cases read
      rfl
    · intro same
      obtain ⟨file, files, rfl, first, rest⟩ := List.map_eq_cons_iff.mp same.symm
      exact ⟨file, first.symm, files, rest.symm, rfl⟩

theorem layout?_eq_some_iff {bytes : Bytes} {layout : Layout} :
    layout? bytes = some layout ↔ bytes = layout.command.payload := by
  constructor
  · intro read
    unfold layout? at read
    split at read
    next first second entries =>
      rw [Option.ite_none_right_eq_some, mapM_entry?_eq_some_iff] at read
      obtain ⟨opening, pieces⟩ := read
      rw [payload_layout, ← opening, List.flatMap_def, ← pieces, flatten_chunks]
      rfl
    next => cases read
  · rintro rfl
    have opening : utf8 "E$" = ['E'.toUInt8, '$'.toUInt8] := by decide
    rw [payload_layout, opening, List.cons_append, List.cons_append, List.nil_append, layout?,
      if_pos opening.symm, chunks_flatMap_entry, mapM_entry?_eq_some_iff]

theorem entry?_at (layout : Layout) (index : Nat) :
    entry? ((layout.command.payload.drop (2 + 11 * index)).take 11) = layout[index]? := by
  have opening : (utf8 "E$").length = 2 := by decide
  rw [payload_layout, ← List.drop_drop, List.drop_left' opening, drop_flatMap_entry,
    ← List.head?_drop]
  cases layout.drop index with
  | nil => rfl
  | cons file files =>
    rw [List.flatMap_cons, List.take_left' (length_entry file), List.head?_cons,
      entry?_eq_some_iff]

end Payloads

/-- A layout comes back from what is written of it, from its descriptors and from its payload, where
every file stands at its place in eleven bytes. -/
theorem layout_round_trip :
    (∀ descriptor file, FileSpec.parse descriptor = .ok file →
      ∀ zeros, FileSpec.parse (written zeros file) = .ok file) ∧
    (∀ descriptors layout, Layout.parse descriptors = .ok layout →
      ∀ zeros : FileSpec → Nat,
        Layout.parse (layout.map fun file => written (zeros file) file) = .ok layout) ∧
    ∀ layout : Layout,
      layout.command.payload.length = 2 + 11 * layout.length ∧
      utf8 "E$" <+: layout.command.payload ∧
      (∀ bytes, layout? bytes = some layout ↔ bytes = layout.command.payload) ∧
      (∀ index, entry? ((layout.command.payload.drop (2 + 11 * index)).take 11) =
        layout[index]?) ∧
      ∀ other : Layout,
        (other.command.payload = layout.command.payload ↔ other = layout) ∧
        (layout ++ other).command.payload =
          utf8 "E$" ++ layout.flatMap FileSpec.entry ++ other.flatMap FileSpec.entry := by
  refine ⟨fun _ _ => parse_written, fun _ _ => parse_map_written, fun layout => ?_⟩
  refine ⟨?_, ⟨_, rfl⟩, fun _ => layout?_eq_some_iff, entry?_at layout, fun other => ⟨?_, ?_⟩⟩
  · have opening : (utf8 "E$").length = 2 := by decide
    rw [payload_layout, List.length_append, opening, length_flatMap_entry]
  · rw [← layout?_eq_some_iff, layout?_eq_some_iff.mpr (Eq.refl other.command.payload)]
    exact Option.some_inj
  · rw [payload_layout, List.flatMap_append, List.append_assoc]

/-- The label of the first file is a mark of its descriptor, and that of the second one starts the
field behind it. -/
theorem layout_round_trip_two :
    let first : FileSpec := ⟨.text, ⟨'['.toUInt8, by decide⟩, 65535⟩
    let second : FileSpec := ⟨.string, ⟨'B'.toUInt8, by decide⟩, 7⟩
    FileSpec.parse "t[[,65535]" = .ok first ∧ written 3 first = "t[[,00065535]" ∧
      FileSpec.parse (written 3 first) = .ok first ∧
      Layout.parse ["t[[,65535]", "s[B,7]"] = .ok [first, second] ∧
      Layout.parse ([first, second].map (written 0)) = .ok [first, second] ∧
      layout? (utf8 "E$[AUFFFF00FFBBL00070000") = some [first, second] := by
  intro first second
  have read : FileSpec.parse "t[[,65535]" = .ok first := by decide +kernel
  have both : Layout.parse ["t[[,65535]", "s[B,7]"] = .ok [first, second] := by decide +kernel
  obtain ⟨descriptor, descriptors, payloads⟩ := layout_round_trip
  obtain ⟨-, -, recovered, -⟩ := payloads [first, second]
  exact ⟨read, by decide +kernel, descriptor _ _ read 3, both, descriptors _ _ both fun _ => 0,
    (recovered _).mpr (by decide +kernel)⟩

end Marquee.Proofs.LayoutRoundTrip
