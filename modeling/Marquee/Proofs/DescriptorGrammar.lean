import Marquee.Memory
import Marquee.Proofs.PayloadUniqueness
import Mathlib.Data.List.Induction
import Mathlib.Data.Nat.Digits.Defs

/-! What is said of a file descriptor. Its shape is looked at first, its label next and its size
last, and the first thing that is wrong is what is told. The label may be any character at all and
the size any number of digits, so only the places of the marks tell the parts of a descriptor. -/

namespace Marquee.Proofs.DescriptorGrammar
open Memory

/-- What a descriptor of a file starts with. -/
def letter : FileKind → Char
  | .string => 's'
  | .text => 't'

/-- The number that digits stand for. The last one counts the ones. -/
def value (digits : List Char) : Nat :=
  Nat.ofDigits 10 (digits.reverse.map fun digit => digit.toNat - '0'.toNat)

/-- A descriptor in its parts, such as s[A,125]. -/
structure Described (descriptor : String) (kind : FileKind) (label : Char) (digits : List Char) :
    Prop where
  shape : descriptor.toList = letter kind :: '[' :: label :: ',' :: (digits ++ [']'])
  filled : digits ≠ []
  decimal : ∀ digit ∈ digits, digit.isDigit

/-- A label that a file of this kind can have. -/
structure Labelled (kind : FileKind) (label : Char) : Prop where
  printable : 0x20 ≤ label.toNat ∧ label.toNat ≤ 0x7E
  ordinary : label ≠ '0'
  carried : kind = .string → label ≠ '?'

/-- What is said of a descriptor. Each rule says that nothing is wrong of what is looked at before.
-/
inductive Answered (descriptor : String) : Except Fault FileSpec → Prop
  | misshapen (shapeless : ∀ kind label digits, ¬ Described descriptor kind label digits) :
      Answered descriptor (.error .descriptor)
  | unprintable {kind : FileKind} {label : Char} {digits : List Char}
      (parts : Described descriptor kind label digits)
      (outside : label.toNat < 0x20 ∨ 0x7E < label.toNat) :
      Answered descriptor (.error .unprintable)
  | priority {kind : FileKind} {digits : List Char} (parts : Described descriptor kind '0' digits) :
      Answered descriptor (.error .priorityFile)
  | stringLabel {digits : List Char} (parts : Described descriptor .string '?' digits) :
      Answered descriptor (.error .stringLabel)
  | fileSize {kind : FileKind} {label : Char} {digits : List Char}
      (parts : Described descriptor kind label digits) (labelled : Labelled kind label)
      (large : 65535 < value digits) : Answered descriptor (.error .fileSize)
  | stringSize {label : Char} {digits : List Char}
      (parts : Described descriptor .string label digits) (labelled : Labelled .string label)
      (fits : value digits ≤ 65535) (large : 125 < value digits) :
      Answered descriptor (.error .stringSize)
  | accepted {label : Char} {digits : List Char} {file : FileSpec}
      (parts : Described descriptor file.kind label digits) (labelled : Labelled file.kind label)
      (short : file.kind = .string → value digits ≤ 125)
      (named : file.label.byte.toNat = label.toNat) (sized : file.size.toNat = value digits) :
      Answered descriptor (.ok file)

section Parts

theorem ofChar?_eq_some_iff {char : Char} {kind : FileKind} :
    FileKind.ofChar? char = some kind ↔ char = letter kind := by
  constructor
  · intro read
    unfold FileKind.ofChar? at read
    split at read <;> cases read <;> rfl
  · rintro rfl
    cases kind <;> rfl

theorem split?_eq_some_iff {descriptor : String} {kind : FileKind} {label : Char}
    {digits : List Char} :
    FileSpec.split? descriptor.toList = some (kind, label, digits) ↔
      Described descriptor kind label digits := by
  constructor
  · intro read
    generalize written : descriptor.toList = chars at read
    unfold FileSpec.split? at read
    split at read
    next first label rest =>
      simp only [Option.bind_eq_bind, Option.bind_eq_some_iff, ofChar?_eq_some_iff,
        Option.ite_none_right_eq_some, Option.some_inj, Prod.mk.injEq] at read
      obtain ⟨_, rfl, ⟨closed, filled, decimal⟩, rfl, rfl, rfl⟩ := read
      obtain ⟨digits, rfl⟩ := List.getLast?_eq_some_iff.mp closed
      rw [List.dropLast_concat] at filled decimal ⊢
      exact ⟨written, filled, List.all_eq_true.mp decimal⟩
    next => cases read
  · rintro ⟨shape, filled, decimal⟩
    have known : FileKind.ofChar? (letter kind) = some kind := ofChar?_eq_some_iff.mpr rfl
    have accepted : (digits ++ [']']).getLast? = some ']' ∧ digits ≠ [] ∧ digits.all Char.isDigit :=
      ⟨List.getLast?_concat, filled, List.all_eq_true.mpr decimal⟩
    rw [shape, FileSpec.split?, known, List.dropLast_concat]
    exact if_pos accepted

theorem parse_of_described {descriptor : String} {kind : FileKind} {label : Char}
    {digits : List Char} (parts : Described descriptor kind label digits) :
    FileSpec.parse descriptor =
      (Label.ofChar label >>= fun label => FileSpec.check kind label digits) := by
  simp only [FileSpec.parse, split?_eq_some_iff.mpr parts]

end Parts

section Counting
open FileSpec (fitted? gather?)

theorem value_concat (digits : List Char) (digit : Char) :
    value (digits ++ [digit]) = 10 * value digits + (digit.toNat - '0'.toNat) := by
  rw [value, List.reverse_concat, List.map_cons, Nat.ofDigits_cons, ← value, Nat.add_comm]

theorem fitted?_eq_some_iff {number : Nat} {size : UInt16} :
    fitted? number = some size ↔ size.toNat = number := by
  rw [fitted?, Option.ite_none_right_eq_some, Option.some_inj]
  constructor
  · rintro ⟨fits, rfl⟩
    exact Nat.mod_eq_of_lt fits
  · rintro rfl
    exact ⟨size.toNat_lt, UInt16.ofNat_toNat⟩

/-- No product or sum on the way is larger than the number that comes of it. -/
theorem gather?_eq_some_iff {digits : List Char} {size : UInt16} :
    gather? digits = some size ↔ size.toNat = value digits := by
  induction digits using List.reverseRecOn generalizing size with
  | nil =>
    rw [gather?, List.foldlM_nil]
    exact Option.some_inj.trans (eq_comm.trans UInt16.toNat_inj.symm)
  | append_singleton digits digit ih =>
    rw [gather?, List.foldlM_append, ← gather?, value_concat]
    simp only [List.foldlM_cons, List.foldlM_nil, bind_pure, Option.bind_eq_bind,
      Option.bind_eq_some_iff, fitted?_eq_some_iff, ih]
    constructor
    · rintro ⟨before, counted, shifted, product, sum⟩
      omega
    · intro sum
      have bound := size.toNat_lt
      have some (number : Nat) (fits : number < 65536) : ∃ size : UInt16, size.toNat = number :=
        ⟨number.toUInt16, Nat.mod_eq_of_lt fits⟩
      obtain ⟨before, counted⟩ := some (value digits) (by omega)
      obtain ⟨shifted, product⟩ := some (value digits * 10) (by omega)
      exact ⟨before, counted, shifted, by omega, by omega⟩

theorem gather?_eq_none_iff {digits : List Char} :
    gather? digits = none ↔ 65535 < value digits := by
  rw [Option.eq_none_iff_forall_ne_some]
  simp only [ne_eq, gather?_eq_some_iff]
  constructor
  · intro uncounted
    by_contra fits
    exact uncounted (value digits).toUInt16 (Nat.mod_eq_of_lt (by omega))
  · intro large size counted
    have bound := size.toNat_lt
    omega

end Counting

section Label
variable {char : Char}

theorem toNat_toUInt8_of_lt (small : char.toNat < 256) : char.toUInt8.toNat = char.toNat :=
  Nat.mod_eq_of_lt small

theorem ofChar_unprintable (outside : char.toNat < 0x20 ∨ 0x7E < char.toNat) :
    Label.ofChar char = .error .unprintable := by
  unfold Label.ofChar
  split
  next small =>
    apply dif_neg
    rw [UInt8.le_iff_toNat_le, UInt8.le_iff_toNat_le, toNat_toUInt8_of_lt small]
    change ¬ (0x20 ≤ char.toNat ∧ char.toNat ≤ 0x7E)
    omega
  next => rfl

theorem ofChar_printable (printable : 0x20 ≤ char.toNat ∧ char.toNat ≤ 0x7E) :
    ∃ label, Label.ofChar char = .ok label ∧ label.byte.toNat = char.toNat := by
  have small : char.toNat < 256 := by omega
  have inside : 0x20 ≤ char.toUInt8 ∧ char.toUInt8 ≤ 0x7E := by
    rw [UInt8.le_iff_toNat_le, UInt8.le_iff_toNat_le, toNat_toUInt8_of_lt small]
    exact printable
  refine ⟨⟨char.toUInt8, inside⟩, ?_, toNat_toUInt8_of_lt small⟩
  rw [Label.ofChar, if_pos small, Label.ofByte, dif_pos inside]

variable {kind : FileKind} {label : Label} {digits : List Char} (named : label.byte.toNat = char.toNat)
include named

theorem byte_eq_iff {mark : Char} (small : mark.toNat < 256) :
    label.byte = mark.toUInt8 ↔ char = mark := by
  rw [← UInt8.toNat_inj, named, toNat_toUInt8_of_lt small, Char.toNat_inj]

theorem isPriority_iff : label.isPriority ↔ char = '0' := by
  rw [← byte_eq_iff named (by decide), Label.isPriority, beq_iff_eq]
  cases label
  simp [Label.priority]

theorem not_reserved (labelled : Labelled kind char) :
    ¬ label.isPriority ∧ ¬ (kind = .string ∧ label.byte = '?'.toUInt8) := by
  rw [isPriority_iff named, byte_eq_iff named (by decide)]
  exact ⟨labelled.ordinary, fun both => labelled.carried both.1 both.2⟩

theorem check_uncounted (labelled : Labelled kind char) (large : 65535 < value digits) :
    FileSpec.check kind label digits = .error .fileSize := by
  obtain ⟨ordinary, carried⟩ := not_reserved named labelled
  rw [FileSpec.check, if_neg ordinary, if_neg carried, gather?_eq_none_iff.mpr large]

theorem check_counted (labelled : Labelled kind char) {size : UInt16}
    (counted : size.toNat = value digits) :
    FileSpec.check kind label digits =
      if kind = .string ∧ 125 < value digits then .error .stringSize
      else .ok ⟨kind, label, size⟩ := by
  have long : longestString < size ↔ 125 < value digits := by
    rw [UInt16.lt_iff_toNat_lt, counted]
    rfl
  obtain ⟨ordinary, carried⟩ := not_reserved named labelled
  rw [FileSpec.check, if_neg ordinary, if_neg carried, gather?_eq_some_iff.mpr counted]
  simp only [long]

end Label

theorem parse_of_answered {descriptor : String} {answer : Except Fault FileSpec}
    (answered : Answered descriptor answer) : FileSpec.parse descriptor = answer := by
  cases answered with
  | misshapen shapeless =>
    have none : FileSpec.split? descriptor.toList = none := by
      rw [Option.eq_none_iff_forall_ne_some]
      rintro ⟨kind, label, digits⟩ read
      exact shapeless kind label digits (split?_eq_some_iff.mp read)
    simp only [FileSpec.parse, none]
  | unprintable parts outside =>
    rw [parse_of_described parts, ofChar_unprintable outside]
    rfl
  | priority parts =>
    rw [parse_of_described parts]
    rfl
  | stringLabel parts =>
    rw [parse_of_described parts]
    rfl
  | fileSize parts labelled large =>
    obtain ⟨label, read, named⟩ := ofChar_printable labelled.printable
    rw [parse_of_described parts, read]
    exact check_uncounted named labelled large
  | @stringSize char digits parts labelled fits large =>
    obtain ⟨label, read, named⟩ := ofChar_printable labelled.printable
    have counted : (value digits).toUInt16.toNat = value digits := Nat.mod_eq_of_lt (by omega)
    rw [parse_of_described parts, read]
    refine (check_counted named labelled counted).trans ?_
    rw [if_pos ⟨rfl, large⟩]
  | @accepted char digits file parts labelled short named sized =>
    obtain ⟨label, read, same⟩ := ofChar_printable labelled.printable
    obtain rfl : label = file.label :=
      PayloadUniqueness.label_byte_inj (UInt8.toNat_inj.mp (same.trans named.symm))
    rw [parse_of_described parts, read]
    refine (check_counted same labelled sized).trans ?_
    rw [if_neg fun both => Nat.not_lt.mpr (short both.1) both.2]

private theorem answered_total (descriptor : String) : ∃ answer, Answered descriptor answer := by
  by_cases shaped : ∃ kind label digits, Described descriptor kind label digits
  · obtain ⟨kind, label, digits, parts⟩ := shaped
    by_cases outside : label.toNat < 0x20 ∨ 0x7E < label.toNat
    · exact ⟨_, .unprintable parts outside⟩
    by_cases priority : label = '0'
    · subst priority
      exact ⟨_, .priority parts⟩
    by_cases reserved : kind = .string ∧ label = '?'
    · obtain ⟨rfl, rfl⟩ := reserved
      exact ⟨_, .stringLabel parts⟩
    have labelled : Labelled kind label :=
      ⟨by omega, priority, fun string mark => reserved ⟨string, mark⟩⟩
    by_cases large : 65535 < value digits
    · exact ⟨_, .fileSize parts labelled large⟩
    by_cases long : kind = .string ∧ 125 < value digits
    · obtain ⟨rfl, long⟩ := long
      exact ⟨_, .stringSize parts labelled (Nat.le_of_not_lt large) long⟩
    obtain ⟨name, -, named⟩ := ofChar_printable labelled.printable
    have sized : (value digits).toUInt16.toNat = value digits := Nat.mod_eq_of_lt (by omega)
    have short : kind = .string → value digits ≤ 125 :=
      fun string => Nat.le_of_not_lt fun more => long ⟨string, more⟩
    exact ⟨.ok ⟨kind, name, (value digits).toUInt16⟩, .accepted parts labelled short named sized⟩
  · exact ⟨_, .misshapen fun kind label digits parts => shaped ⟨kind, label, digits, parts⟩⟩

/-- There is a rule for every descriptor, so the one that reading follows is the only one. -/
theorem parse_eq_iff {descriptor : String} {answer : Except Fault FileSpec} :
    FileSpec.parse descriptor = answer ↔ Answered descriptor answer := by
  refine ⟨?_, parse_of_answered⟩
  rintro rfl
  obtain ⟨answer, answered⟩ := answered_total descriptor
  rw [parse_of_answered answered]
  exact answered

/-- Reading a descriptor answers by the grammar, and by the first thing that is wrong. The size
counts for what it is however many digits it has, and the same comes of counting it in sixteen bits.
-/
theorem parse_grammar (descriptor : String) :
    (∀ answer, FileSpec.parse descriptor = answer ↔ Answered descriptor answer) ∧
      ∀ digits size, FileSpec.gather? digits = some size ↔ size.toNat = value digits :=
  ⟨fun _ => parse_eq_iff, fun _ _ => gather?_eq_some_iff⟩

-- The label is one of the marks, and the zeros in front do not make the size any larger.
example : FileSpec.parse "t[],00000065535]" = .ok ⟨.text, ⟨']'.toUInt8, by decide⟩, 65535⟩ := by
  decide +kernel

end Marquee.Proofs.DescriptorGrammar
